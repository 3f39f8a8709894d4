import DecisionFirewall.Replay.Qualification

/-!
# Lines on Their Own

What a line of a case file is does not depend on the other lines; only whether its
identifiers are new does. A pass over the lines is described by what each of them is, and
by the identifiers of all.

- §1 what a line is
- §2 one turn of the loop
- §3 passes that reach the end
-/

namespace DecisionFirewall.Replay

open Phase3 (Bytes)

/-! ## §1 What a line is -/

/-- What a nonblank line is read as. -/
inductive Parsed where
  | fatal (failure : FailureClass)
  | quarantined (failure : FailureClass)
  | record (fields : Dict)

/-- What the contract makes of a record. -/
inductive Verdict where
  | accepted
  | quarantined (failure : FailureClass)
  | fatal
  | typeError

section Alone

variable (env : Environment)

/-- A value that is no record of this version is not judged. -/
def parsedValue (value : Json) : Parsed :=
  if detectRuntimeLabelLeakage "case" value ≠ [] then .fatal ("POLICY", "RUNTIME_LABEL_LEAKAGE")
  else match value with
    | .obj fields =>
      if unsupportedVersion fields then .fatal ("STRUCTURE", "UNSUPPORTED_SCHEMA_VERSION")
      else .record fields
    | _ => .quarantined ("STRUCTURE", "RECORD_NOT_OBJECT")

/-- A line up to the checks of identifiers. -/
def parsed (payload : Bytes) : Parsed :=
  match parseJson env payload with
  | .error .undecodable => .fatal ("ENCODING", "INVALID_UTF8")
  | .error .tooDeep => .fatal ("RESOURCE_LIMIT", "JSON_NESTING_DEPTH_EXCEEDED")
  | .error (.duplicateMember names) =>
    if "case_id" ∈ names then .fatal ("DUPLICATE", "DUPLICATE_CASE_ID")
    else if "event_id" ∈ names then .fatal ("DUPLICATE", "DUPLICATE_EVENT_ID")
    else .quarantined ("SYNTAX", "INVALID_JSON")
  | .error .invalid => .quarantined ("SYNTAX", "INVALID_JSON")
  | .ok value => parsedValue value

/-- The contract on a record. -/
def verdict (record : Dict) : Verdict :=
  match validateCaseRecord env.lib (.obj record) with
  | .ok () => .accepted
  | .error .typeError => .typeError
  | .error (.contract v) => match classifyContractFailure (v.message env.lib) record with
    | none => .fatal
    | some failure => .quarantined failure

/-- The record that a line adds to the accepted ones. -/
def acceptedOf (payload : Bytes) : Option Json :=
  match parsed env payload with
  | .record fields => match verdict env fields with
    | .accepted => some (.obj fields)
    | _ => none
  | _ => none

/-- Status, category and code of the row of a line. -/
def outcomeOf (payload : Bytes) : String × FailureClass :=
  match parsed env payload with
  | .fatal _ => ("", "", "")
  | .quarantined failure => ("QUARANTINED", failure)
  | .record fields => match verdict env fields with
    | .accepted => ("ACCEPTED", "", "")
    | .quarantined failure => ("QUARANTINED", failure)
    | _ => ("", "", "")

/-- The identifiers that a line defines. -/
def definitions (payload : Bytes) : Option String × List String :=
  match parsed env payload with
  | .record fields => identifierDefinitions fields
  | _ => (none, [])

/-- The line neither ends the pass nor is a record that does. -/
def Settled (payload : Bytes) : Prop :=
  match parsed env payload with
  | .fatal _ => False
  | .quarantined _ => True
  | .record fields => match verdict env fields with
    | .accepted | .quarantined _ => True
    | .fatal | .typeError => False

end Alone

/-! ## §2 One turn of the loop -/

section Turn

variable {env : Environment} {source : Source} {s s' : State} {payload raw : Bytes}

theorem qualifyValue_eq (value : Json) :
    qualifyValue env source s payload value = match parsedValue value with
      | .fatal failure => .error (fatalAt env source s payload failure)
      | .quarantined failure => .ok (quarantine env source s payload failure)
      | .record fields => qualifyRecord env source s payload fields := by
  unfold qualifyValue parsedValue
  by_cases hleak : detectRuntimeLabelLeakage "case" value ≠ []
  · rw [if_pos hleak, if_pos hleak]
  rw [if_neg hleak, if_neg hleak]
  cases value with
  | obj fields =>
    dsimp only
    split <;> rfl
  | null | bool | int | float | str | arr => rfl

/-- A nonblank line is what it is on its own, up to its identifiers. -/
theorem qualifyPayload_eq :
    qualifyPayload env source s payload = match parsed env payload with
      | .fatal failure => .error (fatalAt env source s payload failure)
      | .quarantined failure => .ok (quarantine env source s payload failure)
      | .record fields => qualifyRecord env source s payload fields := by
  unfold qualifyPayload parsed
  cases parseJson env payload with
  | error e =>
    cases e with
    | undecodable => rfl
    | tooDeep => rfl
    | duplicateMember names =>
      dsimp only
      split
      · rfl
      · split <;> rfl
    | invalid => rfl
  | ok value => exact qualifyValue_eq value

theorem judge_eq (record : Dict) :
    judge env source s payload record = match verdict env record with
      | .accepted => .ok (accept env source s payload (.obj record))
      | .quarantined failure => .ok (quarantine env source s payload failure)
      | .fatal => .error (fatalAt env source s payload ("INTERNAL", "UNKNOWN_VALIDATION_FAILURE"))
      | .typeError => .error .typeError := by
  unfold judge verdict
  cases validateCaseRecord env.lib (.obj record) with
  | ok u => rfl
  | error e =>
    cases e with
    | typeError => rfl
    | contract v =>
      dsimp only
      cases classifyContractFailure (v.message env.lib) record <;> rfl

/-- The identifiers of one record are new and different. -/
theorem defineEventIds_eq_some {seen seen' ids : List String} :
    defineEventIds seen ids = some seen' ↔
      seen' = ids.reverse ++ seen ∧ ids.Nodup ∧ ∀ id ∈ ids, id ∉ seen := by
  -- induction on the identifiers, each of which joins the seen ones
  induction ids generalizing seen with
  | nil => simp [defineEventIds, eq_comm]
  | cons id ids ih =>
    unfold defineEventIds
    by_cases hid : id ∈ seen
    · rw [if_pos hid]
      simp [hid]
    · rw [if_neg hid, ih]
      rw [List.forall_mem_cons]
      simp only [List.reverse_cons, List.append_assoc, List.singleton_append, List.nodup_cons,
        List.mem_cons, not_or]
      constructor
      · rintro ⟨rfl, hnodup, hnew⟩
        exact ⟨rfl, ⟨fun hmem => (hnew id hmem).1 rfl, hnodup⟩, hid, fun x hx => (hnew x hx).2⟩
      · rintro ⟨rfl, ⟨hnotin, hnodup⟩, -, hnew⟩
        exact ⟨rfl, hnodup, fun x hx => ⟨fun heq => hnotin (heq ▸ hx), hnew x hx⟩⟩

/-- The identifiers of a line are new. -/
structure Fresh (env : Environment) (s : State) (payload : Bytes) : Prop where
  case : ∀ id ∈ (definitions env payload).1, id ∉ s.seenCaseIds
  distinct : (definitions env payload).2.Nodup
  events : ∀ id ∈ (definitions env payload).2, id ∉ s.seenEventIds

/-- The row of a line. -/
def rowOf (env : Environment) (source : Source) (physicalLineNumber nonblankRecordNumber : Nat)
    (payload : Bytes) : LedgerRecord where
  schemaVersion := CONTRACT_VERSION
  qualificationRunId := source.runId env
  datasetId := source.datasetId
  sourceRole := "cases"
  sourceFileSha256 := source.sha256
  physicalLineNumber := physicalLineNumber
  nonblankRecordNumber := nonblankRecordNumber
  rawLineSha256 := env.sha256 payload
  status := (outcomeOf env payload).1
  errorCategory := (outcomeOf env payload).2.1
  errorCode := (outcomeOf env payload).2.2

/-- The state behind a settled line. -/
def State.settle (env : Environment) (source : Source) (s : State) (payload : Bytes) : State :=
  let row := rowOf env source (s.physicalLineNumber + 1) (s.nonblankRecordNumber + 1) payload
  { accepted := s.accepted ++ (acceptedOf env payload).toList
    accounting := s.accounting ++ [row]
    rejected := s.rejected ++ if (outcomeOf env payload).1 = "QUARANTINED" then [row] else []
    seenCaseIds := (definitions env payload).1.toList ++ s.seenCaseIds
    seenEventIds := (definitions env payload).2.reverse ++ s.seenEventIds
    physicalLineNumber := s.physicalLineNumber + 1
    nonblankRecordNumber := s.nonblankRecordNumber + 1 }

/-- The state behind a blank line. -/
def State.skip (s : State) : State := { s with physicalLineNumber := s.physicalLineNumber + 1 }

/-- The state in which a nonblank line is looked at. -/
def State.enter (s : State) : State :=
  { s with
    physicalLineNumber := s.physicalLineNumber + 1
    nonblankRecordNumber := s.nonblankRecordNumber + 1 }

section Settle

variable {failure : FailureClass} {fields : Dict}

theorem definitions_of_quarantined (h : parsed env payload = .quarantined failure) :
    definitions env payload = (none, []) := by
  rw [definitions, h]

theorem definitions_of_record (h : parsed env payload = .record fields) :
    definitions env payload = identifierDefinitions fields := by
  rw [definitions, h]

theorem settle_of_quarantined (h : parsed env payload = .quarantined failure) :
    s.settle env source payload = quarantine env source s.enter payload failure := by
  simp [State.settle, rowOf, outcomeOf, acceptedOf, definitions, h, quarantine, ledgerRecord,
    State.enter]

/-- The state in which the contract judges a record. -/
def State.define (s : State) (fields : Dict) : State :=
  { s.enter with
    seenCaseIds := (identifierDefinitions fields).1.toList ++ s.seenCaseIds
    seenEventIds := (identifierDefinitions fields).2.reverse ++ s.seenEventIds }

theorem settle_of_rejected (h : parsed env payload = .record fields)
    (hverdict : verdict env fields = .quarantined failure) :
    s.settle env source payload = quarantine env source (s.define fields) payload failure := by
  simp [State.settle, rowOf, outcomeOf, acceptedOf, definitions, h, hverdict, quarantine,
    ledgerRecord, State.enter, State.define]

theorem settle_of_accepted (h : parsed env payload = .record fields)
    (hverdict : verdict env fields = .accepted) :
    s.settle env source payload = accept env source (s.define fields) payload (.obj fields) := by
  simp [State.settle, rowOf, outcomeOf, acceptedOf, definitions, h, hverdict, accept,
    ledgerRecord, State.enter, State.define]

/-- A record with new identifiers is judged. -/
theorem qualifyRecord_of_fresh (h : parsed env payload = .record fields)
    (hfresh : Fresh env s payload) :
    qualifyRecord env source s.enter payload fields =
      judge env source (s.define fields) payload fields := by
  have hdefinitions := definitions_of_record h
  have hcase : ¬ ∃ id ∈ (identifierDefinitions fields).1, id ∈ s.enter.seenCaseIds := by
    rintro ⟨id, hid, hseen⟩
    exact hfresh.case id (hdefinitions ▸ hid) hseen
  have hevents : defineEventIds s.enter.seenEventIds (identifierDefinitions fields).2 =
      some ((identifierDefinitions fields).2.reverse ++ s.seenEventIds) :=
    defineEventIds_eq_some.mpr ⟨rfl, hdefinitions ▸ hfresh.distinct, hdefinitions ▸ hfresh.events⟩
  unfold qualifyRecord
  simp only [if_neg hcase, hevents]
  rfl

/-- A record with an identifier that has been seen ends the pass. -/
theorem qualifyRecord_of_not_fresh (source : Source)
    (h : parsed env payload = .record fields)
    (hfresh : ¬ Fresh env s payload) :
    ∃ failure, qualifyRecord env source s.enter payload fields =
      .error (fatalAt env source s.enter payload failure) := by
  have hdefinitions := definitions_of_record h
  unfold qualifyRecord
  dsimp only
  split
  · exact ⟨_, rfl⟩
  next hcase =>
    cases hevents : defineEventIds s.enter.seenEventIds (identifierDefinitions fields).2 with
    | none => exact ⟨_, rfl⟩
    | some seen =>
      -- the identifiers are new after all
      obtain ⟨-, hdistinct, hnew⟩ := defineEventIds_eq_some.mp hevents
      refine absurd ⟨fun id hid hseen => ?_, hdefinitions ▸ hdistinct, hdefinitions ▸ hnew⟩ hfresh
      rw [hdefinitions] at hid
      exact hcase ⟨id, hid, hseen⟩

end Settle

/-- A nonblank line goes on exactly where it is settled and its identifiers are new. -/
theorem qualifyPayload_eq_ok :
    qualifyPayload env source s.enter payload = .ok s' ↔
      Settled env payload ∧ Fresh env s payload ∧ s' = s.settle env source payload := by
  rw [qualifyPayload_eq]
  cases hparsed : parsed env payload with
  | fatal failure => simp [Settled, hparsed]
  | quarantined failure =>
    have hfresh : Fresh env s payload := by
      constructor <;> simp [definitions_of_quarantined hparsed]
    simp [Settled, hparsed, hfresh, settle_of_quarantined hparsed, eq_comm]
  | record fields =>
    dsimp only
    by_cases hfresh : Fresh env s payload
    · rw [qualifyRecord_of_fresh hparsed hfresh, judge_eq]
      cases hverdict : verdict env fields with
      | accepted =>
        simp [Settled, hparsed, hverdict, hfresh, settle_of_accepted hparsed hverdict, eq_comm]
      | quarantined failure =>
        simp [Settled, hparsed, hverdict, hfresh, settle_of_rejected hparsed hverdict, eq_comm]
      | fatal => simp [Settled, hparsed, hverdict]
      | typeError => simp [Settled, hparsed, hverdict]
    · obtain ⟨failure, hfatal⟩ := qualifyRecord_of_not_fresh source hparsed hfresh
      simp [hfatal, hfresh]

/-- The contract raises another exception on a record of the line. -/
def Breaks (env : Environment) (payload : Bytes) : Prop :=
  ∃ fields, parsed env payload = .record fields ∧ verdict env fields = .typeError

/-- Another exception is raised exactly where the identifiers are new and the contract
raises it. -/
theorem qualifyPayload_eq_typeError :
    qualifyPayload env source s.enter payload = .error .typeError ↔
      Fresh env s payload ∧ Breaks env payload := by
  rw [qualifyPayload_eq]
  cases hparsed : parsed env payload with
  | fatal failure => simp [Breaks, hparsed, fatalAt]
  | quarantined failure => simp [Breaks, hparsed]
  | record fields =>
    dsimp only
    by_cases hfresh : Fresh env s payload
    · rw [qualifyRecord_of_fresh hparsed hfresh, judge_eq]
      cases hverdict : verdict env fields with
      | accepted => simp [Breaks, hparsed, hverdict]
      | quarantined failure => simp [Breaks, hparsed, hverdict]
      | fatal => simp [Breaks, hparsed, hverdict, fatalAt]
      | typeError => simp [Breaks, hparsed, hverdict, hfresh]
    · obtain ⟨failure, hfatal⟩ := qualifyRecord_of_not_fresh source hparsed hfresh
      simp [hfatal, hfresh, fatalAt]

/-- The dataset identifier is not looked at again. -/
theorem qualifyPayload_ne_valueError :
    qualifyPayload env source s.enter payload ≠ .error .valueError := by
  rw [qualifyPayload_eq]
  cases hparsed : parsed env payload with
  | fatal failure => simp [fatalAt]
  | quarantined failure => simp
  | record fields =>
    dsimp only
    by_cases hfresh : Fresh env s payload
    · rw [qualifyRecord_of_fresh hparsed hfresh, judge_eq]
      cases verdict env fields <;> simp [fatalAt]
    · obtain ⟨failure, hfatal⟩ := qualifyRecord_of_not_fresh source hparsed hfresh
      simp [hfatal, fatalAt]

end Turn

/-! ## §3 Passes that reach the end -/

/-- The identifiers differ from each other and from the seen ones. -/
def Distinct (seen ids : List String) : Prop := ids.Nodup ∧ ∀ id ∈ ids, id ∉ seen

theorem distinct_append {seen xs ys : List String} :
    Distinct seen (xs ++ ys) ↔ Distinct seen xs ∧ Distinct (xs ++ seen) ys := by
  unfold Distinct
  rw [List.nodup_append']
  simp only [List.mem_append, or_imp, forall_and, not_or, List.disjoint_left]
  constructor
  · rintro ⟨⟨hx, hy, hxy⟩, hxs, hys⟩
    exact ⟨⟨hx, hxs⟩, hy, fun id hid hidx => hxy hidx hid, hys⟩
  · rintro ⟨⟨hx, hxs⟩, hy, hyx, hys⟩
    exact ⟨⟨hx, hy, fun id hidx hid => hyx id hid hidx⟩, hxs, hys⟩

theorem distinct_cons {seen ids : List String} {id : String} :
    Distinct seen (id :: ids) ↔ id ∉ seen ∧ Distinct (id :: seen) ids := by
  have h : Distinct seen ([id] ++ ids) ↔ Distinct seen [id] ∧ Distinct ([id] ++ seen) ids :=
    distinct_append
  rw [List.singleton_append, List.singleton_append] at h
  rw [h]
  exact and_congr_left fun _ => ⟨fun hone => hone.2 id (List.mem_singleton.mpr rfl), fun hnew =>
    ⟨List.nodup_singleton _, List.forall_mem_singleton.mpr hnew⟩⟩

/-- Only which identifiers have been seen matters. -/
theorem distinct_congr {seen seen' ids : List String} (h : ∀ id, id ∈ seen ↔ id ∈ seen') :
    Distinct seen ids ↔ Distinct seen' ids := by
  unfold Distinct
  simp only [h]

/-- The nonblank lines without their delimiters. -/
def payloadsOf (lines : List Bytes) : List Bytes :=
  (lines.map stripTerminalLineDelimiter).filter fun payload => !isBlankLine payload

section Pass

variable (env : Environment) (source : Source)

/-- The case identifiers of some lines. -/
def caseIds (payloads : List Bytes) : List String :=
  payloads.flatMap fun payload => (definitions env payload).1.toList

/-- The event identifiers of some lines. -/
def eventIds (payloads : List Bytes) : List String :=
  payloads.flatMap fun payload => (definitions env payload).2

/-- No line is too long or one too many, and no identifier is defined twice. -/
structure Admits (s : State) (lines : List Bytes) : Prop where
  size : ∀ raw ∈ lines, raw.length ≤ MAX_JSONL_LINE_BYTES
  count : payloadsOf lines ≠ [] →
    s.nonblankRecordNumber + (payloadsOf lines).length ≤ MAX_RECORDS_PER_FILE
  cases : Distinct s.seenCaseIds (caseIds env (payloadsOf lines))
  events : Distinct s.seenEventIds (eventIds env (payloadsOf lines))

/-- Every line is settled. -/
def AllSettled (lines : List Bytes) : Prop := ∀ payload ∈ payloadsOf lines, Settled env payload

/-- The state behind a line that does not end the pass. -/
def State.turn (s : State) (raw : Bytes) : State :=
  if isBlankLine (stripTerminalLineDelimiter raw) then s.skip
  else s.settle env source (stripTerminalLineDelimiter raw)

variable {env source} {s s' : State} {raw : Bytes} {lines : List Bytes}

theorem payloadsOf_cons_blank (h : isBlankLine (stripTerminalLineDelimiter raw) = true) :
    payloadsOf (raw :: lines) = payloadsOf lines := by
  simp [payloadsOf, h]

theorem payloadsOf_cons (h : isBlankLine (stripTerminalLineDelimiter raw) = false) :
    payloadsOf (raw :: lines) = stripTerminalLineDelimiter raw :: payloadsOf lines := by
  simp [payloadsOf, h]

theorem payloadsOf_append (before after : List Bytes) :
    payloadsOf (before ++ after) = payloadsOf before ++ payloadsOf after := by
  simp [payloadsOf]

theorem distinct_nil (seen : List String) : Distinct seen [] :=
  ⟨List.nodup_nil, by simp⟩

/-- Blank lines are admitted where they are short enough. -/
theorem admits_of_blank (h : payloadsOf lines = []) :
    Admits env s lines ↔ ∀ raw ∈ lines, raw.length ≤ MAX_JSONL_LINE_BYTES := by
  constructor
  · exact fun hadmits => hadmits.size
  · intro hsize
    refine ⟨hsize, fun hne => absurd h hne, ?_, ?_⟩
    · rw [h]
      exact distinct_nil _
    · rw [h]
      exact distinct_nil _

/-- What is admitted is admitted line by line. -/
theorem admits_cons (source : Source) :
    Admits env s (raw :: lines) ↔
      Admits env s [raw] ∧ Admits env (s.turn env source raw) lines := by
  by_cases hblank : isBlankLine (stripTerminalLineDelimiter raw) = true
  · have hone : payloadsOf [raw] = [] := payloadsOf_cons_blank hblank
    have hturn : s.turn env source raw = s.skip := if_pos hblank
    rw [hturn]
    constructor
    · intro h
      have hcount := h.count
      have hcases := h.cases
      have hevents := h.events
      rw [payloadsOf_cons_blank hblank] at hcount hcases hevents
      refine ⟨(admits_of_blank hone).mpr fun r hr => h.size r ?_,
        fun r hr => h.size r (List.mem_cons_of_mem _ hr), hcount, hcases, hevents⟩
      exact List.mem_singleton.mp hr ▸ List.mem_cons_self
    · rintro ⟨h, hrest⟩
      refine ⟨List.forall_mem_cons.mpr ⟨h.size raw (List.mem_singleton.mpr rfl), hrest.size⟩, ?_, ?_, ?_⟩
      · rw [payloadsOf_cons_blank hblank]
        exact hrest.count
      · rw [payloadsOf_cons_blank hblank]
        exact hrest.cases
      · rw [payloadsOf_cons_blank hblank]
        exact hrest.events
  · have hfalse := Bool.eq_false_iff.mpr hblank
    have hone : payloadsOf [raw] = [stripTerminalLineDelimiter raw] := payloadsOf_cons hfalse
    have hturn : s.turn env source raw = s.settle env source (stripTerminalLineDelimiter raw) :=
      if_neg hblank
    have hcaseIds : caseIds env (payloadsOf (raw :: lines)) =
        caseIds env (payloadsOf [raw]) ++ caseIds env (payloadsOf lines) := by
      rw [payloadsOf_cons hfalse, hone]
      simp [caseIds]
    have heventIds : eventIds env (payloadsOf (raw :: lines)) =
        eventIds env (payloadsOf [raw]) ++ eventIds env (payloadsOf lines) := by
      rw [payloadsOf_cons hfalse, hone]
      simp [eventIds]
    have hseen : ∀ id, id ∈ caseIds env (payloadsOf [raw]) ++ s.seenCaseIds ↔
        id ∈ (s.turn env source raw).seenCaseIds := by
      intro id
      rw [hturn, hone]
      simp [caseIds, State.settle]
    have hseenEvents : ∀ id, id ∈ eventIds env (payloadsOf [raw]) ++ s.seenEventIds ↔
        id ∈ (s.turn env source raw).seenEventIds := by
      intro id
      rw [hturn, hone]
      simp [eventIds, State.settle]
    have hnumber : (s.turn env source raw).nonblankRecordNumber = s.nonblankRecordNumber + 1 := by
      rw [hturn]
      rfl
    constructor
    · intro h
      obtain ⟨hcase, hcases⟩ := distinct_append.mp (hcaseIds ▸ h.cases)
      obtain ⟨hevent, hevents⟩ := distinct_append.mp (heventIds ▸ h.events)
      have hcount := h.count (by rw [payloadsOf_cons hfalse]; simp)
      rw [payloadsOf_cons hfalse, List.length_cons] at hcount
      refine ⟨⟨fun r hr => h.size r ?_, fun _ => ?_, hcase, hevent⟩,
        fun r hr => h.size r (List.mem_cons_of_mem _ hr), fun _ => ?_,
        (distinct_congr hseen).mp hcases, (distinct_congr hseenEvents).mp hevents⟩
      · exact List.mem_singleton.mp hr ▸ List.mem_cons_self
      · rw [hone, List.length_singleton]
        omega
      · rw [hnumber]
        omega
    · rintro ⟨h, hrest⟩
      have hcount := h.count (by rw [hone]; simp)
      have hrestCount := hrest.count
      rw [hone, List.length_singleton] at hcount
      rw [hnumber] at hrestCount
      refine ⟨List.forall_mem_cons.mpr ⟨h.size raw (List.mem_singleton.mpr rfl), hrest.size⟩,
        fun _ => ?_, ?_, ?_⟩
      · rw [payloadsOf_cons hfalse, List.length_cons]
        cases hlines : payloadsOf lines with
        | nil => simpa using hcount
        | cons p ps =>
          have hbound := hrestCount (by rw [hlines]; simp)
          rw [hlines] at hbound
          omega
      · rw [hcaseIds]
        exact distinct_append.mpr ⟨h.cases, (distinct_congr hseen).mpr hrest.cases⟩
      · rw [heventIds]
        exact distinct_append.mpr ⟨h.events, (distinct_congr hseenEvents).mpr hrest.events⟩

/-- A line on its own is admitted where it is short enough, not one too many, and its
identifiers are new. -/
theorem admits_singleton (h : isBlankLine (stripTerminalLineDelimiter raw) = false) :
    Admits env s [raw] ↔ raw.length ≤ MAX_JSONL_LINE_BYTES ∧
      s.nonblankRecordNumber + 1 ≤ MAX_RECORDS_PER_FILE ∧
        Fresh env s (stripTerminalLineDelimiter raw) := by
  have hone : payloadsOf [raw] = [stripTerminalLineDelimiter raw] := payloadsOf_cons h
  have hcaseIds : caseIds env [stripTerminalLineDelimiter raw] =
      (definitions env (stripTerminalLineDelimiter raw)).1.toList := by
    simp [caseIds]
  have heventIds : eventIds env [stripTerminalLineDelimiter raw] =
      (definitions env (stripTerminalLineDelimiter raw)).2 := by
    simp [eventIds]
  constructor
  · intro hadmits
    have hcases := hadmits.cases
    have hevents := hadmits.events
    rw [hone, hcaseIds] at hcases
    rw [hone, heventIds] at hevents
    refine ⟨hadmits.size raw (List.mem_singleton.mpr rfl), ?_, ?_, hevents.1, hevents.2⟩
    · have hcount := hadmits.count (by rw [hone]; simp)
      rwa [hone, List.length_singleton] at hcount
    · exact fun id hid => hcases.2 id (Option.mem_toList.mpr hid)
  · rintro ⟨hsize, hcount, hfresh⟩
    refine ⟨fun r hr => List.mem_singleton.mp hr ▸ hsize, fun _ => ?_, ?_, ?_⟩
    · rwa [hone, List.length_singleton]
    · rw [hone, hcaseIds]
      refine ⟨?_, fun id hid => hfresh.case id (Option.mem_toList.mp hid)⟩
      cases (definitions env (stripTerminalLineDelimiter raw)).1 <;> simp
    · rw [hone, heventIds]
      exact ⟨hfresh.distinct, hfresh.events⟩

/-- One turn goes on exactly where the line is admitted and settled. -/
theorem qualifyLine_eq_ok :
    qualifyLine env source s raw = .ok s' ↔
      Admits env s [raw] ∧ AllSettled env [raw] ∧ s' = s.turn env source raw := by
  have hline : qualifyLine env source s raw =
      if MAX_JSONL_LINE_BYTES < raw.length then
        .error (fatalAt env source s.enter (stripTerminalLineDelimiter raw)
          ("RESOURCE_LIMIT", "LINE_TOO_LARGE"))
      else if isBlankLine (stripTerminalLineDelimiter raw) then .ok s.skip
      else if MAX_RECORDS_PER_FILE < s.nonblankRecordNumber + 1 then
        .error (fatalAt env source s.enter (stripTerminalLineDelimiter raw)
          ("RESOURCE_LIMIT", "RECORD_COUNT_EXCEEDED"))
      else qualifyPayload env source s.enter (stripTerminalLineDelimiter raw) := rfl
  rw [hline]
  by_cases hsize : MAX_JSONL_LINE_BYTES < raw.length
  · rw [if_pos hsize]
    refine ⟨fun h => (by cases h), fun h => ?_⟩
    exact absurd (h.1.size raw (List.mem_singleton.mpr rfl)) (Nat.not_le.mpr hsize)
  rw [if_neg hsize]
  by_cases hblank : isBlankLine (stripTerminalLineDelimiter raw) = true
  · have hone : payloadsOf [raw] = [] := payloadsOf_cons_blank hblank
    have hadmits : Admits env s [raw] :=
      (admits_of_blank hone).mpr fun r hr => List.mem_singleton.mp hr ▸ Nat.not_lt.mp hsize
    have hsettled : AllSettled env [raw] := by
      intro payload hpayload
      rw [hone] at hpayload
      cases hpayload
    rw [if_pos hblank, State.turn, if_pos hblank]
    simp [hadmits, hsettled, eq_comm]
  · have hfalse := Bool.eq_false_iff.mpr hblank
    have hone : payloadsOf [raw] = [stripTerminalLineDelimiter raw] := payloadsOf_cons hfalse
    have hsettled : AllSettled env [raw] ↔ Settled env (stripTerminalLineDelimiter raw) := by
      unfold AllSettled
      rw [hone, List.forall_mem_singleton]
    rw [if_neg hblank, admits_singleton hfalse, hsettled, State.turn, if_neg hblank]
    by_cases hcount : MAX_RECORDS_PER_FILE < s.nonblankRecordNumber + 1
    · rw [if_pos hcount]
      exact ⟨fun h => (by cases h), fun h => absurd h.1.2.1 (Nat.not_le.mpr hcount)⟩
    · rw [if_neg hcount, qualifyPayload_eq_ok]
      constructor
      · rintro ⟨hs, hfresh, rfl⟩
        exact ⟨⟨Nat.not_lt.mp hsize, Nat.not_lt.mp hcount, hfresh⟩, hs, rfl⟩
      · rintro ⟨⟨-, -, hfresh⟩, hs, rfl⟩
        exact ⟨hs, hfresh, rfl⟩

/-- One turn raises another exception exactly where the line is admitted and breaks. -/
theorem qualifyLine_eq_typeError :
    qualifyLine env source s raw = .error .typeError ↔
      Admits env s [raw] ∧ isBlankLine (stripTerminalLineDelimiter raw) = false ∧
        Breaks env (stripTerminalLineDelimiter raw) := by
  unfold qualifyLine
  dsimp only
  by_cases hsize : MAX_JSONL_LINE_BYTES < raw.length
  · rw [if_pos hsize]
    refine ⟨fun h => (by cases h), fun h => ?_⟩
    exact absurd (h.1.size raw (List.mem_singleton.mpr rfl)) (Nat.not_le.mpr hsize)
  rw [if_neg hsize]
  by_cases hblank : isBlankLine (stripTerminalLineDelimiter raw) = true
  · rw [if_pos hblank]
    refine ⟨fun h => (by cases h), fun h => ?_⟩
    rw [hblank] at h
    exact absurd h.2.1 (by decide)
  · have hfalse := Bool.eq_false_iff.mpr hblank
    rw [if_neg hblank, admits_singleton hfalse]
    by_cases hcount : MAX_RECORDS_PER_FILE < s.nonblankRecordNumber + 1
    · rw [if_pos hcount]
      exact ⟨fun h => (by cases h), fun h => absurd h.1.2.1 (Nat.not_le.mpr hcount)⟩
    · rw [if_neg hcount]
      refine Iff.trans qualifyPayload_eq_typeError ⟨fun h => ?_, fun h => ⟨h.1.2.2, h.2.2⟩⟩
      exact ⟨⟨Nat.not_lt.mp hsize, Nat.not_lt.mp hcount, h.1⟩, hfalse, h.2⟩

/-- A pass reaches the end exactly where every line is admitted and settled. -/
theorem qualifyLines_eq_ok :
    qualifyLines env source s lines = .ok s' ↔
      Admits env s lines ∧ AllSettled env lines ∧ s' = lines.foldl (State.turn env source) s := by
  -- induction on the lines; what one turn leaves is where the rest starts
  induction lines generalizing s with
  | nil =>
    have hadmits : Admits env s [] := (admits_of_blank rfl).mpr (by simp)
    have hsettled : AllSettled env [] := by simp [AllSettled, payloadsOf]
    simp [qualifyLines, hadmits, hsettled, eq_comm]
  | cons raw lines ih =>
    have hsettled : AllSettled env (raw :: lines) ↔
        AllSettled env [raw] ∧ AllSettled env lines := by
      unfold AllSettled
      rw [show raw :: lines = [raw] ++ lines from rfl, payloadsOf_append]
      simp only [List.forall_mem_append]
    rw [admits_cons source, hsettled, List.foldl_cons]
    unfold qualifyLines
    cases hturn : qualifyLine env source s raw with
    | error e =>
      refine ⟨fun h => (by cases h), fun h => ?_⟩
      have hok : qualifyLine env source s raw = .ok (s.turn env source raw) :=
        qualifyLine_eq_ok.mpr ⟨h.1.1, h.2.1.1, rfl⟩
      rw [hturn] at hok
      cases hok
    | ok t =>
      obtain ⟨hone, honeSettled, rfl⟩ := qualifyLine_eq_ok.mp hturn
      dsimp only
      rw [ih]
      constructor
      · rintro ⟨hrest, hrestSettled, rfl⟩
        exact ⟨⟨hone, hrest⟩, ⟨honeSettled, hrestSettled⟩, rfl⟩
      · rintro ⟨⟨-, hrest⟩, ⟨-, hrestSettled⟩, rfl⟩
        exact ⟨hrest, hrestSettled, rfl⟩

/-- A pass raises another exception exactly where it arrives at a line that breaks. -/
theorem qualifyLines_eq_typeError :
    qualifyLines env source s lines = .error .typeError ↔
      ∃ before raw after, lines = before ++ raw :: after ∧ Admits env s (before ++ [raw]) ∧
        AllSettled env before ∧ isBlankLine (stripTerminalLineDelimiter raw) = false ∧
          Breaks env (stripTerminalLineDelimiter raw) := by
  induction lines generalizing s with
  | nil => simp [qualifyLines]
  | cons raw lines ih =>
    unfold qualifyLines
    constructor
    · intro h
      cases hturn : qualifyLine env source s raw with
      | error e =>
        rw [hturn] at h
        cases h
        obtain ⟨hadmits, hblank, hbreaks⟩ := qualifyLine_eq_typeError.mp hturn
        exact ⟨[], raw, lines, rfl, hadmits, by simp [AllSettled, payloadsOf], hblank, hbreaks⟩
      | ok t =>
        rw [hturn] at h
        obtain ⟨hadmits, hsettled, rfl⟩ := qualifyLine_eq_ok.mp hturn
        obtain ⟨before, last, after, rfl, hrest, hbefore, hblank, hbreaks⟩ := ih.mp h
        refine ⟨raw :: before, last, after, rfl, (admits_cons source).mpr ⟨hadmits, hrest⟩, ?_, hblank,
          hbreaks⟩
        unfold AllSettled at hsettled hbefore ⊢
        rw [show raw :: before = [raw] ++ before from rfl, payloadsOf_append]
        exact List.forall_mem_append.mpr ⟨hsettled, hbefore⟩
    · rintro ⟨before, last, after, hlines, hadmits, hbefore, hblank, hbreaks⟩
      cases before with
      | nil =>
        obtain ⟨rfl, rfl⟩ := List.cons.inj hlines
        rw [qualifyLine_eq_typeError.mpr ⟨hadmits, hblank, hbreaks⟩]
      | cons first before =>
        obtain ⟨rfl, rfl⟩ := List.cons.inj hlines
        obtain ⟨hone, hrest⟩ := (admits_cons source).mp hadmits
        unfold AllSettled at hbefore
        rw [show raw :: before = [raw] ++ before from rfl, payloadsOf_append,
          List.forall_mem_append] at hbefore
        rw [qualifyLine_eq_ok.mpr ⟨hone, hbefore.1, rfl⟩]
        exact ih.mpr ⟨before, last, after, rfl, hrest, hbefore.2, hblank, hbreaks⟩

/-- No line is refused as an argument. -/
theorem qualifyLines_ne_valueError : qualifyLines env source s lines ≠ .error .valueError := by
  induction lines generalizing s with
  | nil => simp [qualifyLines]
  | cons raw lines ih =>
    unfold qualifyLines
    cases hturn : qualifyLine env source s raw with
    | ok t => exact ih
    | error e =>
      intro h
      cases h
      unfold qualifyLine at hturn
      dsimp only at hturn
      split_ifs at hturn
      · cases hturn
      · cases hturn
      · exact qualifyPayload_ne_valueError hturn

end Pass

end DecisionFirewall.Replay
