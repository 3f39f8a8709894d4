import DecisionFirewall.Replay.Validation

/-!
# Accounting for Every Line

A qualified file has one row for every nonblank line, and the rows say which records were
accepted. One check of the contract raises an exception that is not handled.

- §1 the nonblank lines of a file
- §2 the rows of a pass
- §3 every line is accounted for
- §4 a line that is not
-/

namespace DecisionFirewall.Replay

open Phase3 (Bytes)

/-! ## §1 The nonblank lines of a file -/

/-- A nonblank line with its two numbers. -/
structure NumberedLine where
  physicalLineNumber : Nat
  nonblankRecordNumber : Nat
  payload : Bytes

/-- The nonblank lines behind so many lines and so many nonblank ones. -/
def numberedFrom (physical nonblank : Nat) (lines : List Bytes) : List NumberedLine :=
  ((((lines.map stripTerminalLineDelimiter).zipIdx (physical + 1)).filter fun line =>
    !isBlankLine line.1).zipIdx (nonblank + 1)).map fun line => ⟨line.1.2, line.2, line.1.1⟩

/-- The nonblank lines of a file. -/
def nonblankLines (content : Bytes) : List NumberedLine := numberedFrom 0 0 (physicalLines content)

section Numbered

variable {physical nonblank : Nat} {raw : Bytes} {lines : List Bytes}

theorem numberedFrom_cons_blank (h : isBlankLine (stripTerminalLineDelimiter raw) = true) :
    numberedFrom physical nonblank (raw :: lines) = numberedFrom (physical + 1) nonblank lines := by
  simp [numberedFrom, List.zipIdx_cons, h]

theorem numberedFrom_cons (h : isBlankLine (stripTerminalLineDelimiter raw) = false) :
    numberedFrom physical nonblank (raw :: lines) =
      ⟨physical + 1, nonblank + 1, stripTerminalLineDelimiter raw⟩ ::
        numberedFrom (physical + 1) (nonblank + 1) lines := by
  simp [numberedFrom, List.zipIdx_cons, h]

theorem payload_numberedFrom :
    (numberedFrom physical nonblank lines).map NumberedLine.payload = payloadsOf lines := by
  induction lines generalizing physical nonblank with
  | nil => rfl
  | cons raw lines ih =>
    by_cases hblank : isBlankLine (stripTerminalLineDelimiter raw) = true
    · rw [numberedFrom_cons_blank hblank, payloadsOf_cons_blank hblank, ih]
    · have hfalse := Bool.eq_false_iff.mpr hblank
      rw [numberedFrom_cons hfalse, payloadsOf_cons hfalse, List.map_cons, ih]

end Numbered

/-- The lines of a file are the file. -/
theorem flatten_physicalLines (content : Bytes) : (physicalLines content).flatten = content := by
  induction content with
  | nil => rfl
  | cons b rest ih =>
    unfold physicalLines
    by_cases hb : b = 10
    · rw [if_pos hb, List.flatten_cons, ih]
      rfl
    · rw [if_neg hb]
      cases hlines : physicalLines rest with
      | nil =>
        rw [hlines] at ih
        rw [← ih]
        rfl
      | cons line lines =>
        rw [hlines, List.flatten_cons] at ih
        rw [List.flatten_cons, ← ih]
        rfl

/-- A file without a line break is one line. -/
theorem physicalLines_of_noBreak {content : Bytes} (hne : content ≠ []) (h : ∀ b ∈ content, b ≠ 10) :
    physicalLines content = [content] := by
  induction content with
  | nil => exact absurd rfl hne
  | cons b rest ih =>
    unfold physicalLines
    rw [if_neg (h b List.mem_cons_self)]
    cases rest with
    | nil => rfl
    | cons c rest => rw [ih (by simp) fun d hd => h d (List.mem_cons_of_mem _ hd)]

theorem stripTerminalLineDelimiter_of_noBreak {content : Bytes} (h : ∀ b ∈ content, b ≠ 10) :
    stripTerminalLineDelimiter content = content := by
  have hlast (before : Bytes) : ¬ before ++ [10] <:+ content := fun hsuffix =>
    h 10 (hsuffix.subset (List.mem_append_right _ (List.mem_singleton.mpr rfl))) rfl
  unfold stripTerminalLineDelimiter
  rw [if_neg (show ¬ [13, 10] <:+ content from hlast [13]),
    if_neg (show ¬ [10] <:+ content from hlast [])]

/-! ## §2 The rows of a pass -/

section Rows

variable (env : Environment) (source : Source)

/-- The row of a numbered line. -/
def NumberedLine.row (line : NumberedLine) : LedgerRecord :=
  rowOf env source line.physicalLineNumber line.nonblankRecordNumber line.payload

/-- A pass appends the rows and the records of its nonblank lines. -/
theorem foldl_turn (s : State) (lines : List Bytes) :
    let rows := (numberedFrom s.physicalLineNumber s.nonblankRecordNumber lines).map
      (NumberedLine.row env source)
    (lines.foldl (State.turn env source) s).accounting = s.accounting ++ rows ∧
      (lines.foldl (State.turn env source) s).rejected =
          s.rejected ++ rows.filter (fun row => row.status = "QUARANTINED") ∧
        (lines.foldl (State.turn env source) s).accepted =
          s.accepted ++ (payloadsOf lines).filterMap (acceptedOf env) := by
  -- induction on the lines; one turn appends what belongs to its line
  induction lines generalizing s with
  | nil => simp [numberedFrom, payloadsOf]
  | cons raw lines ih =>
    by_cases hblank : isBlankLine (stripTerminalLineDelimiter raw) = true
    · have hturn : s.turn env source raw = s.skip := if_pos hblank
      rw [List.foldl_cons, hturn, numberedFrom_cons_blank hblank, payloadsOf_cons_blank hblank]
      exact ih s.skip
    · have hfalse := Bool.eq_false_iff.mpr hblank
      have hturn : s.turn env source raw = s.settle env source (stripTerminalLineDelimiter raw) :=
        if_neg hblank
      rw [List.foldl_cons, hturn, numberedFrom_cons hfalse, payloadsOf_cons hfalse]
      obtain ⟨haccounting, hrejected, haccepted⟩ :=
        ih (s.settle env source (stripTerminalLineDelimiter raw))
      refine ⟨?_, ?_, ?_⟩
      · rw [haccounting]
        simp [State.settle, NumberedLine.row]
      · rw [hrejected]
        simp only [State.settle, NumberedLine.row, List.map_cons, List.filter_cons, rowOf]
        split <;> simp_all
      · rw [haccepted]
        simp only [State.settle, List.filterMap_cons]
        cases acceptedOf env (stripTerminalLineDelimiter raw) <;> simp

end Rows

/-! ## §3 Every line is accounted for -/

/-- The line holds this record, and the contract accepts it. -/
def Holds (env : Environment) (payload : Bytes) (record : Json) : Prop :=
  ∃ fields, record = .obj fields ∧ parseJson env payload = .ok record ∧
    validateCaseRecord env.lib record = .ok ()

/-- The row says of the line what it is. -/
structure RowFor (env : Environment) (line : NumberedLine) (row : LedgerRecord) : Prop where
  physicalLineNumber : row.physicalLineNumber = line.physicalLineNumber
  nonblankRecordNumber : row.nonblankRecordNumber = line.nonblankRecordNumber
  rawLineSha256 : row.rawLineSha256 = env.sha256 line.payload
  status : row.status = "ACCEPTED" ∨ row.status = "QUARANTINED"
  accepted : row.status = "ACCEPTED" ↔ ∃ record, Holds env line.payload record

/-- The result accounts for every nonblank line of the file. -/
structure Accounted (env : Environment) (content : Bytes) (result : QualificationResult) : Prop where
  rows : List.Forall₂ (RowFor env) (nonblankLines content) result.accountingRecords
  rejections : result.rejectionRecords =
    result.accountingRecords.filter fun row => row.status = "QUARANTINED"
  contents : ∀ record, record ∈ result.acceptedRecords ↔
    ∃ line ∈ nonblankLines content, Holds env line.payload record
  records : validateCaseRecords env.lib result.acceptedRecords = .ok result.acceptedRecords

/-- A pass over the file is fatal, or it accounts for every line. -/
def Accounts (env : Environment) (content : Bytes) (datasetId : String) : Prop :=
  match qualifyCaseBytes env content (env.sha256 content) datasetId with
  | .error e => ∃ failure, e = .fatal failure
  | .ok result => Accounted env content result

/-- The pass arrives at a record in which every check succeeds up to the integrity of an
event, and that integrity is an array or an object. -/
def MeetsUnhashable (env : Environment) (content : Bytes) : Prop :=
  ∃ before raw after record head earlier event later inventory,
    physicalLines content = before ++ raw :: after ∧ Admits env .start (before ++ [raw]) ∧
      AllSettled env before ∧ isBlankLine (stripTerminalLineDelimiter raw) = false ∧
        parsed env (stripTerminalLineDelimiter raw) = .record record ∧
          validateCaseHead env.lib record = .ok head ∧ head.events = earlier ++ .obj event :: later ∧
            validateEvents env.lib head.caseId 0 [] earlier = .ok inventory ∧
              validateEventHead env.lib earlier.length head.caseId event = .ok () ∧
                Unhashable (Dict.get event "integrity")

section Outcomes

variable {env : Environment} {payload : Bytes} {record : Json} {fields : Dict}

theorem verdict_eq_accepted :
    verdict env fields = .accepted ↔ validateCaseRecord env.lib (.obj fields) = .ok () := by
  unfold verdict
  cases validateCaseRecord env.lib (.obj fields) with
  | ok u => simp
  | error e =>
    cases e with
    | typeError => simp
    | contract v => cases hclass : classifyContractFailure (v.message env.lib) fields <;> simp [hclass]

theorem parsed_eq_record (h : parsed env payload = .record fields) :
    parseJson env payload = .ok (.obj fields) := by
  unfold parsed at h
  cases hparse : parseJson env payload with
  | ok value =>
    rw [hparse] at h
    dsimp only at h
    unfold parsedValue at h
    split at h
    · cases h
    · cases value with
      | obj d =>
        dsimp only at h
        split at h
        · cases h
        · cases h
          rfl
      | null | bool | int | float | str | arr => cases h
  | error e =>
    rw [hparse] at h
    cases e with
    | duplicateMember names =>
      dsimp only at h
      split_ifs at h
    | undecodable | tooDeep | invalid => cases h

/-- A line is accepted exactly where it holds an accepted record. -/
theorem acceptedOf_eq_some : acceptedOf env payload = some record ↔ Holds env payload record := by
  constructor
  · intro h
    unfold acceptedOf at h
    cases hparsed : parsed env payload with
    | record fields =>
      cases hverdict : verdict env fields with
      | accepted =>
        simp only [hparsed, hverdict, Option.some.injEq] at h
        subst h
        exact ⟨fields, rfl, parsed_eq_record hparsed, verdict_eq_accepted.mp hverdict⟩
      | quarantined | fatal | typeError => simp [hparsed, hverdict] at h
    | fatal | quarantined => simp [hparsed] at h
  · rintro ⟨fields, rfl, hparse, hvalid⟩
    have hparsed : parsed env payload = .record fields := by
      unfold parsed
      rw [hparse]
      exact parsedValue_of_valid hvalid
    unfold acceptedOf
    simp [hparsed, verdict_eq_accepted.mpr hvalid]

/-- The status of a settled line. -/
theorem status_of_settled (h : Settled env payload) :
    (outcomeOf env payload).1 = if (acceptedOf env payload).isSome then "ACCEPTED"
      else "QUARANTINED" := by
  unfold Settled at h
  unfold outcomeOf acceptedOf
  cases hparsed : parsed env payload with
  | fatal failure =>
    rw [hparsed] at h
    exact h.elim
  | quarantined failure => rfl
  | record fields =>
    rw [hparsed] at h
    cases hverdict : verdict env fields with
    | accepted => simp [hverdict]
    | quarantined failure => simp [hverdict]
    | fatal | typeError => simp [hverdict] at h

theorem rowFor_row {source : Source} {line : NumberedLine} (h : Settled env line.payload) :
    RowFor env line (line.row env source) := by
  have hstatus : (line.row env source).status =
      if (acceptedOf env line.payload).isSome then "ACCEPTED" else "QUARANTINED" :=
    status_of_settled h
  refine ⟨rfl, rfl, rfl, ?_, ?_⟩
  · rw [hstatus]
    split
    · exact .inl rfl
    · exact .inr rfl
  · rw [hstatus]
    simp only [← acceptedOf_eq_some]
    split
    next hsome => exact iff_of_true rfl (Option.isSome_iff_exists.mp hsome)
    next hnone => exact iff_of_false (by decide) (mt Option.isSome_iff_exists.mpr hnone)

/-- The identifiers of an accepted record are those of its line. -/
theorem definitions_of_holds (h : Holds env payload record) :
    definitions env payload = (some (caseIdOf record), eventIdsOf record) := by
  obtain ⟨fields, rfl, hparse, hvalid⟩ := h
  have hparsed : parsed env payload = .record fields := by
    unfold parsed
    rw [hparse]
    exact parsedValue_of_valid hvalid
  rw [definitions_of_record hparsed]
  exact identifierDefinitions_of_valid hvalid

/-- The identifiers of the accepted records are among those of the lines, in order. -/
theorem sublist_identifiers (env : Environment) (payloads : List Bytes) :
    ((payloads.filterMap (acceptedOf env)).map caseIdOf).Sublist (caseIds env payloads) ∧
      ((payloads.filterMap (acceptedOf env)).flatMap eventIdsOf).Sublist
        (eventIds env payloads) := by
  induction payloads with
  | nil => exact ⟨List.Sublist.refl _, List.Sublist.refl _⟩
  | cons payload payloads ih =>
    unfold caseIds eventIds at ih ⊢
    rw [List.filterMap_cons, List.flatMap_cons, List.flatMap_cons]
    cases haccepted : acceptedOf env payload with
    | none =>
      exact ⟨ih.1.trans (List.sublist_append_right _ _), ih.2.trans (List.sublist_append_right _ _)⟩
    | some record =>
      rw [definitions_of_holds (acceptedOf_eq_some.mp haccepted)]
      exact ⟨ih.1.cons_cons _, (List.Sublist.refl _).append ih.2⟩

end Outcomes

section Qualified

variable {env : Environment} {content : Bytes} {datasetId : String}

/-- The second digest is the first one. -/
theorem qualifyCaseBytes_eq (h : IsIdentifier datasetId) :
    qualifyCaseBytes env content (env.sha256 content) datasetId =
      (qualifyLines env ⟨datasetId, env.sha256 content⟩ .start (physicalLines content)).map
        fun s => ⟨(⟨datasetId, env.sha256 content⟩ : Source).runId env, env.sha256 content,
          s.accepted, s.accounting, s.rejected⟩ := by
  have hdigest : IsSha256 (env.sha256 content) := env.sha256_isSha256 content
  unfold qualifyCaseBytes
  simp only [flatten_physicalLines, ne_eq, not_true_eq_false, if_false, h, hdigest]
  cases qualifyLines env ⟨datasetId, env.sha256 content⟩ .start (physicalLines content) <;> rfl

/-- A pass that reaches the end accounts for every line. -/
theorem accounted_of_ok {source : Source} {s : State} {runId digest : String}
    (h : qualifyLines env source .start (physicalLines content) = .ok s) :
    Accounted env content ⟨runId, digest, s.accepted, s.accounting, s.rejected⟩ := by
  obtain ⟨hadmits, hsettled, rfl⟩ := qualifyLines_eq_ok.mp h
  obtain ⟨haccounting, hrejected, haccepted⟩ :=
    foldl_turn env source .start (physicalLines content)
  have hpayloads : (nonblankLines content).map NumberedLine.payload =
      payloadsOf (physicalLines content) := payload_numberedFrom
  refine ⟨?_, ?_, fun record => ?_, ?_⟩
  · rw [haccounting]
    show List.Forall₂ (RowFor env) (nonblankLines content)
      ((nonblankLines content).map (NumberedLine.row env source))
    rw [List.forall₂_map_right_iff, List.forall₂_same]
    intro line hline
    refine rowFor_row (hsettled _ ?_)
    rw [← hpayloads]
    exact List.mem_map_of_mem hline
  · rw [haccounting, hrejected]
    rfl
  · rw [haccepted, ← hpayloads]
    show record ∈ ((nonblankLines content).map NumberedLine.payload).filterMap (acceptedOf env) ↔ _
    simp only [List.mem_filterMap, List.mem_map, acceptedOf_eq_some]
    constructor
    · rintro ⟨_, ⟨line, hline, rfl⟩, hholds⟩
      exact ⟨line, hline, hholds⟩
    · rintro ⟨line, hline, hholds⟩
      exact ⟨_, ⟨line, hline, rfl⟩, hholds⟩
  · rw [haccepted]
    show validateCaseRecords env.lib ((payloadsOf (physicalLines content)).filterMap
      (acceptedOf env)) = .ok ((payloadsOf (physicalLines content)).filterMap (acceptedOf env))
    obtain ⟨hcases, hevents⟩ := sublist_identifiers env (payloadsOf (physicalLines content))
    refine validateCaseRecords_of_valid (fun record hrecord => ?_)
      (hcases.nodup hadmits.cases.1) (hevents.nodup hadmits.events.1)
    obtain ⟨payload, -, haccepts⟩ := List.mem_filterMap.mp hrecord
    obtain ⟨fields, -, -, hvalid⟩ := acceptedOf_eq_some.mp haccepts
    exact hvalid

/-- The contract raises the other exception on a line that holds such a value. -/
theorem verdict_eq_typeError {fields : Dict} :
    verdict env fields = .typeError ↔ validateCaseRecord env.lib (.obj fields) = .error .typeError := by
  unfold verdict
  cases validateCaseRecord env.lib (.obj fields) with
  | ok u => simp
  | error e =>
    cases e with
    | typeError => simp
    | contract v => cases hclass : classifyContractFailure (v.message env.lib) fields <;> simp [hclass]

/-- The pass raises the other exception exactly where it meets a value that cannot be
hashed. -/
theorem meetsUnhashable_iff (source : Source) :
    qualifyLines env source .start (physicalLines content) = .error .typeError ↔
      MeetsUnhashable env content := by
  rw [qualifyLines_eq_typeError]
  constructor
  · rintro ⟨before, raw, after, hlines, hadmits, hbefore, hblank, record, hparsed, hverdict⟩
    obtain ⟨head, earlier, event, later, inventory, hhead, hevents, hearlier, hevent, hintegrity⟩ :=
      validateCaseRecord_eq_typeError.mp (verdict_eq_typeError.mp hverdict)
    exact ⟨before, raw, after, record, head, earlier, event, later, inventory, hlines, hadmits,
      hbefore, hblank, hparsed, hhead, hevents, hearlier, hevent, hintegrity⟩
  · rintro ⟨before, raw, after, record, head, earlier, event, later, inventory, hlines, hadmits,
      hbefore, hblank, hparsed, hhead, hevents, hearlier, hevent, hintegrity⟩
    refine ⟨before, raw, after, hlines, hadmits, hbefore, hblank, record, hparsed, ?_⟩
    refine verdict_eq_typeError.mpr (validateCaseRecord_eq_typeError.mpr ?_)
    exact ⟨head, earlier, event, later, inventory, hhead, hevents, hearlier, hevent, hintegrity⟩

/-- A pass that does not reach the end is fatal, or it meets such a value. -/
theorem accounts_of_identifier (h : IsIdentifier datasetId) :
    Accounts env content datasetId ↔ ¬ MeetsUnhashable env content := by
  let source : Source := ⟨datasetId, env.sha256 content⟩
  rw [← meetsUnhashable_iff source]
  unfold Accounts
  rw [qualifyCaseBytes_eq h]
  show (match (qualifyLines env source .start (physicalLines content)).map _ with
    | .error e => ∃ failure, e = .fatal failure
    | .ok result => Accounted env content result) ↔ _
  cases hrun : qualifyLines env source .start (physicalLines content) with
  | ok s => exact iff_of_true (accounted_of_ok hrun) (fun hok => by cases hok)
  | error e =>
    cases e with
    | fatal failure => exact iff_of_true ⟨failure, rfl⟩ (fun hfatal => by cases hfatal)
    | typeError => exact iff_of_false (fun ⟨_, htype⟩ => by cases htype) (fun hnot => hnot rfl)
    | valueError => exact absurd hrun qualifyLines_ne_valueError

/-- A pass is fatal or accounts for every line exactly where the dataset is named by an
identifier and no value that cannot be hashed is met. -/
theorem accounts_iff (env : Environment) (content : Bytes) (datasetId : String) :
    Accounts env content datasetId ↔ IsIdentifier datasetId ∧ ¬ MeetsUnhashable env content := by
  by_cases hdataset : IsIdentifier datasetId
  · rw [accounts_of_identifier hdataset]
    exact (and_iff_right hdataset).symm
  · refine iff_of_false (fun h => ?_) fun h => hdataset h.1
    -- the arguments are looked at before anything else
    unfold Accounts qualifyCaseBytes at h
    dsimp only at h
    rw [if_pos hdataset] at h
    obtain ⟨failure, hvalue⟩ := h
    cases hvalue

end Qualified

/-! ## §4 A line that is not -/

/-- An event of the asset inventory. -/
def sampleEvent (integrity : Json) : Dict :=
  [("event_id", .str "event-1"), ("case_id", .str "case-1"),
    ("source_type", .str "asset_inventory"), ("source_instance", .str "cmdb"),
    ("observed_at", .str "2026-01-01T00:00:00+00:00"),
    ("collected_at", .str "2026-01-01T00:00:00+00:00"), ("integrity", integrity),
    ("provenance_id", .str ""), ("trust_score", .int 1), ("entity_refs", .arr []),
    ("attributes", .obj [("asset_id", .str "host-1"), ("privilege_level", .str "user"),
      ("break_glass", .bool false), ("asset_criticality", .int 1)]),
    ("untrusted_text", .str ""), ("contains_instructional_content", .bool false)]

/-- A case with that event. -/
def sampleCase (subjectId : String) (integrity : Json) : Dict :=
  [("schema_version", .str "0.2.0"), ("case_id", .str "case-1"),
    ("opened_at", .str "2026-01-01T00:00:00+00:00"), ("subject_id", .str subjectId),
    ("asset_id", .str "host-1"), ("privilege_level", .str "user"), ("break_glass", .bool false),
    ("asset_criticality", .int 1), ("events", .arr [.obj (sampleEvent integrity)])]

/-- The one time of these cases is read. -/
def sampleLibrary : Library where
  fromisoformat s :=
    if s = "2026-01-01T00:00:00+00:00" then some (.aware 63902822400000000) else none
  floatValue _ := none
  isPrintable _ := true
  reprOther _ := ""

/-- One text is read, as this value. -/
def sampleEnvironment (value : Json) : Environment where
  lib := sampleLibrary
  sha256 _ := "0000000000000000000000000000000000000000000000000000000000000000"
  loads text := if text = String.ofList value.text then .ok value else .error .invalid
  sha256_isSha256 _ := by decide

/-- Printable ASCII is its own text. -/
theorem decodeUtf8_encodeAscii {cs : List Char} (h : ∀ c ∈ cs, Json.IsPrintable c) :
    decodeUtf8 (Json.encodeAscii cs) = some (String.ofList cs) := by
  have hunits : Json.encodeAscii cs = cs.flatMap String.utf8EncodeChar := by
    induction cs with
    | nil => rfl
    | cons c cs ih =>
      obtain ⟨-, hhigh⟩ := h c List.mem_cons_self
      have hsize : c.utf8Size = 1 := by
        have hval : c.val.toNat ≤ 126 := hhigh
        unfold Char.utf8Size
        rw [if_pos (UInt32.le_iff_toNat_le.mpr (hval.trans (by decide)))]
      rw [List.flatMap_cons, String.utf8EncodeChar_eq_singleton hsize,
        ← ih fun d hd => h d (List.mem_cons_of_mem _ hd)]
      rfl
  have hbytes : (⟨(Json.encodeAscii cs).toArray⟩ : ByteArray) = (String.ofList cs).toByteArray := by
    rw [String.toByteArray_ofList, List.utf8Encode, ← hunits]
    exact ByteArray.ext List.data_toByteArray.symm
  unfold decodeUtf8 String.fromUTF8?
  rw [hbytes, dif_pos (String.ofList cs).isValidUTF8]
  exact congrArg some (String.toByteArray_inj.mp rfl)

section Sample

variable {value : Json}

/-- The one text of the sample is parsed. -/
theorem parseJson_sample (hnumbers : value.NumbersOk)
    (hnesting : Lib.Nesting.exceeds MAX_JSON_NESTING_DEPTH 0 false false value.text = false) :
    parseJson (sampleEnvironment value) (Json.encodeAscii value.text) = .ok value := by
  have hshallow : jsonNestingDepthExceeded (String.ofList value.text) = false := by
    rw [jsonNestingDepthExceeded, String.toList_ofList]
    exact hnesting
  unfold parseJson
  rw [decodeUtf8_encodeAscii (Json.isPrintable_text value hnumbers)]
  simp [hshallow, sampleEnvironment]

/-- The text of an object is one nonblank line. -/
theorem lines_sample {fields : Dict} (hnumbers : (Json.obj fields).NumbersOk) :
    physicalLines (Json.encodeAscii (Json.obj fields).text) =
        [Json.encodeAscii (Json.obj fields).text] ∧
      stripTerminalLineDelimiter (Json.encodeAscii (Json.obj fields).text) =
          Json.encodeAscii (Json.obj fields).text ∧
        isBlankLine (Json.encodeAscii (Json.obj fields).text) = false := by
  have hbreak : ∀ b ∈ Json.encodeAscii (Json.obj fields).text, b ≠ 10 := fun b hb =>
    (Json.encodeAscii_ne (Json.isPrintable_text _ hnumbers) b hb).1
  have hhead : ∃ rest, Json.encodeAscii (Json.obj fields).text = 123 :: rest := ⟨_, rfl⟩
  refine ⟨physicalLines_of_noBreak ?_ hbreak, stripTerminalLineDelimiter_of_noBreak hbreak, ?_⟩
  · obtain ⟨rest, hrest⟩ := hhead
    rw [hrest]
    exact List.cons_ne_nil _ _
  · obtain ⟨rest, hrest⟩ := hhead
    rw [hrest, isBlankLine, List.all_cons]
    rfl

end Sample

/-- The integrity of the only event is an array. -/
theorem unhashable_integrity_ends_the_pass :
    ¬ Accounts (sampleEnvironment (.obj (sampleCase "subject-1" (.arr []))))
      (Json.encodeAscii (Json.obj (sampleCase "subject-1" (.arr []))).text) "dataset" := by
  have hnumbers : (Json.obj (sampleCase "subject-1" (.arr []))).NumbersOk := by
    simp [sampleCase, sampleEvent, Json.NumbersOk, Json.NumbersOkFields, Json.NumbersOkItems]
  have hevents : Dict.get (sampleCase "subject-1" (.arr [])) "events" =
      .arr [.obj (sampleEvent (.arr []))] := rfl
  have hcase : Dict.get (sampleCase "subject-1" (.arr [])) "case_id" = .str "case-1" := rfl
  have hfacts : Lib.Nesting.exceeds MAX_JSON_NESTING_DEPTH 0 false false
        (Json.obj (sampleCase "subject-1" (.arr []))).text = false ∧
      (Json.obj (sampleCase "subject-1" (.arr []))).text.length ≤ MAX_JSONL_LINE_BYTES ∧
        detectRuntimeLabelLeakage "case" (.obj (sampleCase "subject-1" (.arr []))) = [] ∧
          unsupportedVersion (sampleCase "subject-1" (.arr [])) = false ∧
            identifierDefinitions (sampleCase "subject-1" (.arr [])) =
                (some "case-1", ["event-1"]) ∧
              (validateCaseHead sampleLibrary (sampleCase "subject-1" (.arr []))).isOk = true ∧
                (validateEventHead sampleLibrary 0 "case-1" (sampleEvent (.arr []))).isOk = true := by
    decide +kernel
  generalize sampleCase "subject-1" (.arr []) = record at hnumbers hevents hcase hfacts ⊢
  obtain ⟨hnesting, hsize, hclean, hversion, hids, hhead, hevent⟩ := hfacts
  obtain ⟨hlines, hstrip, hblank⟩ := lines_sample hnumbers
  have hparsed : parsed (sampleEnvironment (.obj record)) (Json.encodeAscii (Json.obj record).text) =
      .record record := by
    rw [parsed, parseJson_sample hnumbers hnesting]
    simp [parsedValue, hclean, hversion]
  rw [accounts_of_identifier (by decide), not_not]
  cases hok : validateCaseHead sampleLibrary record with
  | error e =>
    rw [hok] at hhead
    cases hhead
  | ok head =>
    have hof := headOf_of_validateCaseHead hok
    have hid : head.caseId = "case-1" := Json.str.inj (hof.caseId.symm.trans hcase)
    refine ⟨[], _, [], record, head, [], sampleEvent (.arr []), [], [], hlines, ?_, ?_, ?_, ?_, hok,
      Json.arr.inj (hof.events.symm.trans hevents), rfl, ?_, trivial⟩
    · rw [List.nil_append, admits_singleton (by rw [hstrip, hblank]), hstrip]
      have hdefinitions := (definitions_of_record hparsed).trans hids
      refine ⟨by rw [Json.length_encodeAscii]; exact hsize, by decide, ?_, ?_, ?_⟩
      · exact fun id _ => List.not_mem_nil
      · rw [hdefinitions]
        exact List.nodup_singleton _
      · exact fun id _ => List.not_mem_nil
    · exact List.forall_mem_nil _
    · rw [hstrip, hblank]
    · rw [hstrip, hparsed]
    · rw [hid]
      cases hchecked : validateEventHead sampleLibrary 0 "case-1" (sampleEvent (.arr [])) with
      | ok u => exact hchecked
      | error e =>
        rw [hchecked] at hevent
        cases hevent

end DecisionFirewall.Replay
