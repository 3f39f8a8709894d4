import DecisionFirewall.Replay.Accounting

/-!
# Classes of Contract Failures

`_classify_contract_failure` reads the class of a failed check from the text of its error. The
text quotes the rejected value, so a value may contain what the code looks for.

- §1 the documented taxonomy
- §2 errors that are misread
- §3 tests of a text
- §4 texts that quote nothing
- §5 texts that quote identifiers
- §6 texts that quote what was rejected
- §7 records
-/

namespace DecisionFirewall.Replay

open Lib (occurs occursBehind)

/-! ## §1 The documented taxonomy -/

/-- The fields that hold times. -/
def TIMESTAMP_FIELDS : List String := [".opened_at", ".observed_at", ".collected_at"]

/-- The category and code that the documented taxonomy gives to a failing check. -/
def Violation.taxonomy : Violation → FailureClass
  | .recordNotObject => ("STRUCTURE", "RECORD_NOT_OBJECT")
  | .labelLeakage _ => ("POLICY", "RUNTIME_LABEL_LEAKAGE")
  | .version _ => ("STRUCTURE", "UNSUPPORTED_SCHEMA_VERSION")
  | .duplicateEventId _ _ | .fileDuplicateEvent _ => ("DUPLICATE", "DUPLICATE_EVENT_ID")
  | .fileDuplicateCase _ => ("DUPLICATE", "DUPLICATE_CASE_ID")
  | .missingFields _ _ => ("STRUCTURE", "MISSING_REQUIRED_FIELD")
  | .unsupportedFields _ _ => ("STRUCTURE", "UNEXPECTED_FIELD")
  | .eventCount => ("RESOURCE_LIMIT", "EVENT_COUNT_EXCEEDED")
  | .textTooLong _ => ("RESOURCE_LIMIT", "UNTRUSTED_TEXT_TOO_LONG")
  | .attributesTooLarge _ => ("RESOURCE_LIMIT", "ATTRIBUTES_TOO_LARGE")
  | .timestamp _ | .offset _ => ("SEMANTICS", "INVALID_TIMESTAMP")
  | .emptyText site =>
    if site.field ∈ TIMESTAMP_FIELDS then ("SEMANTICS", "INVALID_TIMESTAMP")
    else ("SEMANTICS", "INVALID_IDENTIFIER")
  | .identifier _ _ | .featureIdentifier _ => ("SEMANTICS", "INVALID_IDENTIFIER")
  | .boolean _ | .featureBoolean _ => ("SEMANTICS", "INVALID_BOOLEAN")
  | .unitInterval _ | .featureUnitInterval _ | .attributeRange _ _ | .nonFinite =>
    ("SEMANTICS", "NUMERIC_OUT_OF_RANGE")
  | .unauthorized _ name =>
    if name = "source_conflict" then ("SEMANTICS", "UNAUTHORIZED_DECISION_SIGNAL")
    else ("SEMANTICS", "UNAUTHORIZED_MODELED_SIGNAL")
  | .caseMismatch _ _ _ => ("SEMANTICS", "CASE_EVENT_ID_MISMATCH")
  | .timeOrder _ => ("SEMANTICS", "EVENT_TIME_ORDER_INVALID")
  | .inventoryMissing _ | .inventoryIncomplete => ("SEMANTICS", "CANONICAL_CONTEXT_MISSING")
  | .contextMismatch _ => ("SEMANTICS", "CANONICAL_CONTEXT_MISMATCH")
  | .duplicateReference _ _ => ("SEMANTICS", "DUPLICATE_ENTITY_REFERENCE")
  | .eventsEmpty => ("SEMANTICS", "EMPTY_REQUIRED_COLLECTION")
  | .integrity _ => ("SEMANTICS", "INVALID_ENUM_VALUE")
  | .notObject _ | .numeric _ | .featureNumeric _ | .integer _ _ | .eventsNotArray
  | .provenance _ | .referencesNotArray _ | .attributesNotCanonical _ | .textNotString _ =>
    ("SEMANTICS", "INVALID_TYPE")

/-- The check that fails: the error without what it quotes of the record. -/
def Violation.check : Violation → Violation
  | .labelLeakage _ => .labelLeakage []
  | .missingFields site _ => .missingFields site []
  | .unsupportedFields site _ => .unsupportedFields site []
  | .version _ => .version .null
  | .identifier site _ => .identifier site ""
  | .duplicateEventId _ _ => .duplicateEventId "" ""
  | .inventoryMissing _ => .inventoryMissing ""
  | .caseMismatch index _ _ => .caseMismatch index "" ""
  | .duplicateReference index _ => .duplicateReference index ""
  | .fileDuplicateCase _ => .fileDuplicateCase ""
  | .fileDuplicateEvent _ => .fileDuplicateEvent ""
  | v => v

/-- The taxonomy does not look at what is quoted. -/
theorem taxonomy_check (v : Violation) : v.check.taxonomy = v.taxonomy := by cases v <;> rfl

/-! ## §2 Errors that are misread -/

/-- The tests that stand before the one of identifiers. -/
def EARLIER_RULES : List Rule := CLASSIFICATION.take 19

/-- Errors whose class is not the one of the check: what is quoted contains what is looked for
first, or a time is missing and named like an identifier. -/
def Violation.Misread (lib : Library) : Violation → Prop
  | .identifier site candidate =>
    ∃ rule ∈ EARLIER_RULES, rule.fires (site.field ++ reprText lib candidate) = true
  | .unsupportedFields _ names =>
    ∃ name ∈ names, occurs "missing required fields".toList name.toList = true
  | .emptyText site => site.field ∈ TIMESTAMP_FIELDS
  | _ => False

/-! ## §3 Tests of a text -/

/-- The test succeeds with these fragments. -/
def Rule.firesOn (rule : Rule) (found : List Char → Bool) : Bool :=
  rule.fragments.any fun all => all.all fun fragment => found fragment.toList

/-- What the tests look for. -/
def FRAGMENTS : List String := CLASSIFICATION.flatMap fun rule => rule.fragments.flatten

/-- None of the first tests succeeds, and the next one does. -/
def Settles (n : Nat) (upper lower : List Char → Bool) : Bool :=
  (CLASSIFICATION.take n).all (fun rule => !rule.firesOn upper) &&
    CLASSIFICATION[n]?.any fun rule => rule.firesOn lower

/-- Behind these words, this text with a blank in front is of the class with this number. -/
def Decides (words : List String) (text : String) (n : Nat) : Prop :=
  text.toList.head? = some ' ' ∧ ∀ word ∈ words, ' ' ∉ word.toList ∧
    Settles n (fun f => occursBehind ' ' f word.toList text.toList.tail)
      (fun f => occursBehind ' ' f word.toList text.toList.tail) = true

instance decidableDecides (words : List String) (text : String) (n : Nat) :
    Decidable (Decides words text n) :=
  inferInstanceAs (Decidable (_ ∧ ∀ word ∈ words, _))

/-- The last word of a place. -/
def Site.word (site : Site) : String :=
  match site.event with
  | none => "case" ++ site.field
  | some _ => site.field

/-- The last words of these places. -/
def wordsOf (caseFields eventFields : List String) : List String :=
  caseFields.map ("case" ++ ·) ++ eventFields

section Texts

variable {rule : Rule} {message : String} {record : Dict} {n : Nat}

theorem fires_eq_firesOn (rule : Rule) (message : String) :
    rule.fires message = rule.firesOn fun fragment => occurs fragment message.toList := rfl

theorem firesOn_mono {found found' : List Char → Bool}
    (h : ∀ fragment ∈ rule.fragments.flatten, found fragment.toList = true →
      found' fragment.toList = true)
    (hfires : rule.firesOn found = true) : rule.firesOn found' = true := by
  obtain ⟨all, hall, hfound⟩ := List.any_eq_true.mp hfires
  refine List.any_eq_true.mpr ⟨all, hall, List.all_eq_true.mpr fun fragment hfragment => ?_⟩
  exact h fragment (List.mem_flatten_of_mem hall hfragment)
    (List.all_eq_true.mp hfound fragment hfragment)

theorem mem_FRAGMENTS (hrule : rule ∈ CLASSIFICATION) {fragment : String}
    (h : fragment ∈ rule.fragments.flatten) : fragment ∈ FRAGMENTS :=
  List.mem_flatMap.mpr ⟨rule, hrule, h⟩

/-- The class of the first test that succeeds. -/
theorem classify_of_first (hn : CLASSIFICATION[n]? = some rule)
    (hbefore : ∀ earlier ∈ CLASSIFICATION.take n, earlier.fires message = false)
    (hfires : rule.fires message = true) :
    classifyContractFailure message record = some (rule.outcome record) := by
  obtain ⟨hlength, hget⟩ := List.getElem?_eq_some_iff.mp hn
  have hfind : CLASSIFICATION.find? (·.fires message) = some rule := by
    refine List.find?_eq_some_iff_getElem.mpr ⟨hfires, n, hlength, hget, fun j hj => ?_⟩
    have hmem : CLASSIFICATION[j] ∈ CLASSIFICATION.take n :=
      List.mem_take_iff_getElem.mpr ⟨j, by omega, rfl⟩
    rw [hbefore _ hmem]
    rfl
  rw [classifyContractFailure, hfind]
  rfl

/-- What may occur in a text decides which tests fail, and what does occur decides which one
succeeds. -/
theorem classify_of_settles {upper lower : List Char → Bool} (h : Settles n upper lower = true)
    (hupper : ∀ fragment ∈ FRAGMENTS, occurs fragment.toList message.toList = true →
      upper fragment.toList = true)
    (hlower : ∀ fragment ∈ FRAGMENTS, lower fragment.toList = true →
      occurs fragment.toList message.toList = true) :
    classifyContractFailure message record = CLASSIFICATION[n]?.map (·.outcome record) := by
  obtain ⟨hsilent, hsettled⟩ := Bool.and_eq_true_iff.mp h
  obtain ⟨rule, hn, hrule⟩ := (Option.any_eq_true _ _).mp hsettled
  rw [hn]
  refine classify_of_first hn (fun earlier hearlier => ?_) ?_
  · have hmem : earlier ∈ CLASSIFICATION := List.mem_of_mem_take hearlier
    have hfails := List.all_eq_true.mp hsilent earlier hearlier
    refine Bool.eq_false_iff.mpr fun hfires => ?_
    have hon : earlier.firesOn upper = true := by
      rw [fires_eq_firesOn] at hfires
      refine firesOn_mono (fun fragment hfragment => ?_) hfires
      exact hupper fragment (mem_FRAGMENTS hmem hfragment)
    rw [hon] at hfails
    cases hfails
  · have hmem : rule ∈ CLASSIFICATION := List.mem_of_getElem? hn
    rw [fires_eq_firesOn]
    refine firesOn_mono (fun fragment hfragment => ?_) hrule
    exact hlower fragment (mem_FRAGMENTS hmem hfragment)

/-- A fragment that neither a place nor a quote is part of. -/
def StandsAlone (fragment : List Char) : Prop :=
  ']' ∉ fragment ∧ '\'' ∉ fragment ∧ '"' ∉ fragment ∧ occurs fragment ['.'] = false ∧
    (fragment.any fun c => c ∉ "replay case.events[".toList && !c.isDigit) = true ∧
      occurs fragment "replay".toList = false ∧
        ((fragment.takeWhile (· ≠ ' ')).isSuffixOf "replay".toList = false ∨
          (fragment.dropWhile (· ≠ ' ')).tail.head?.any (· ≠ 'c') = true)

instance decidableStandsAlone (fragment : List Char) : Decidable (StandsAlone fragment) :=
  inferInstanceAs (Decidable (_ ∧ _))

theorem fragments_stand_alone : ∀ fragment ∈ FRAGMENTS, StandsAlone fragment.toList := by
  decide +kernel

/-- Before the last word of a place nothing occurs. -/
theorem occurs_label {fragment : List Char} (h : StandsAlone fragment) (site : Site)
    (text : List Char) :
    occurs fragment (site.label.toList ++ text) = occurs fragment (site.word.toList ++ text) := by
  obtain ⟨hbracket, -, -, -, hany, hreplay, hword⟩ := h
  obtain ⟨c, hc, houtside⟩ := List.any_eq_true.mp hany
  obtain ⟨hplace, hdigit⟩ : c ∉ "replay case.events[".toList ∧ c.isDigit = false := by
    simpa using houtside
  obtain ⟨event, field⟩ := site
  cases event with
  | some index =>
    have hlabel : (Site.label ⟨some index, field⟩).toList ++ text =
        ("replay case.events[".toList ++ Nat.toDigits 10 index) ++ ']' :: (field.toList ++ text) := by
      simp [Site.label]
    have hdigits : c ∉ "replay case.events[".toList ++ Nat.toDigits 10 index := by
      intro hmem
      rcases List.mem_append.mp hmem with hmem | hmem
      · exact hplace hmem
      · rw [Nat.isDigit_of_mem_toDigits (by omega) (by omega) hmem] at hdigit
        cases hdigit
    rw [hlabel, Lib.occurs_append_cons hbracket, Lib.occurs_eq_false hc hdigits, Bool.false_or]
    rfl
  | none =>
    have hlabel : (Site.label ⟨none, field⟩).toList ++ text =
        "replay".toList ++ ' ' :: ('c' :: ("ase".toList ++ (field.toList ++ text))) := by
      simp [Site.label]
    have htext : (Site.word ⟨none, field⟩).toList ++ text =
        'c' :: ("ase".toList ++ (field.toList ++ text)) := by
      simp [Site.word]
    have hblank : ' ' ∉ "replay".toList := by simp
    rw [hlabel, htext, Lib.occurs_eq_occursBehind hblank, occursBehind]
    cases hdrop : fragment.dropWhile (· ≠ ' ') with
    | nil =>
      dsimp only
      rw [hreplay, Bool.false_or]
    | cons d rest =>
      dsimp only
      rw [hdrop] at hword
      rcases hword with hword | hword
      · rw [hword, Bool.and_false, Bool.false_or]
      · cases rest with
        | nil => cases hword
        | cons e rest =>
          have hne : e ≠ 'c' := of_decide_eq_true hword
          have hbegin : (e :: rest).isPrefixOf ('c' :: ("ase".toList ++ (field.toList ++ text))) =
              false := by
            simp [List.isPrefixOf, hne]
          rw [hbegin, Bool.false_and, Bool.false_or]

/-- The class of a text, where its fragments are those behind a word. -/
theorem classify_of_decides {words : List String} {word text : String} {failure : FailureClass}
    (h : Decides words text n) (hword : word ∈ words)
    (hoccurs : ∀ fragment ∈ FRAGMENTS, occurs fragment.toList message.toList =
      occurs fragment.toList (word.toList ++ text.toList))
    (houtcome : CLASSIFICATION[n]?.map (·.outcome record) = some failure) :
    classifyContractFailure message record = some failure := by
  obtain ⟨hhead, hwords⟩ := h
  obtain ⟨hblank, hsettles⟩ := hwords word hword
  obtain ⟨tail, htail⟩ := List.head?_eq_some_iff.mp hhead
  have hbehind : ∀ fragment ∈ FRAGMENTS, occurs fragment.toList message.toList =
      occursBehind ' ' fragment.toList word.toList text.toList.tail := by
    intro fragment hfragment
    rw [hoccurs fragment hfragment, htail, Lib.occurs_eq_occursBehind hblank]
    rfl
  rw [← houtcome]
  refine classify_of_settles hsettles (fun fragment hfragment h => ?_) fun fragment hfragment h => ?_
  · exact (hbehind fragment hfragment).symm.trans h
  · exact (hbehind fragment hfragment).trans h

/-- The class of a text that begins with a word without blanks. -/
theorem classify_behind {words : List String} {text : String} {failure : FailureClass}
    (word : String) (h : Decides words text n) (hword : word ∈ words)
    (hmessage : message = word ++ text)
    (houtcome : CLASSIFICATION[n]?.map (·.outcome record) = some failure) :
    classifyContractFailure message record = some failure := by
  refine classify_of_decides h hword (fun fragment _ => ?_) houtcome
  rw [hmessage, String.toList_append]

/-- The class of a text that begins with a place. -/
theorem classify_at {words : List String} {text : String} {failure : FailureClass} (site : Site)
    (h : Decides words text n) (hword : site.word ∈ words) (hmessage : message = site.label ++ text)
    (houtcome : CLASSIFICATION[n]?.map (·.outcome record) = some failure) :
    classifyContractFailure message record = some failure := by
  refine classify_of_decides h hword (fun fragment hfragment => ?_) houtcome
  rw [hmessage, String.toList_append, occurs_label (fragments_stand_alone fragment hfragment)]

/-- The last word of one of these places. -/
theorem word_mem {site : Site} {caseFields eventFields : List String}
    (h : site.Among caseFields eventFields) : site.word ∈ wordsOf caseFields eventFields := by
  obtain ⟨event, field⟩ := site
  cases event with
  | none => exact List.mem_append_left _ (List.mem_map_of_mem h)
  | some index => exact List.mem_append_right _ h

end Texts

/-! ## §4 Texts that quote nothing -/

/-- The texts that quote nothing, by the words before the blank. -/
theorem decided :
    Decides ["case"] " contains a non-finite JSON number." 10 ∧
    Decides (wordsOf [] ["", ".attributes"]) " must be a JSON object." 22 ∧
    Decides (wordsOf (".opened_at" :: CASE_IDENTIFIERS) (EVENT_TIMESTAMPS ++ EVENT_IDENTIFIERS))
      " must be a non-empty string." 19 ∧
    Decides (wordsOf [".break_glass"] EVENT_BOOLEANS ++ ["asset_inventory.attributes.break_glass"])
      " must be a boolean." 6 ∧
    Decides (wordsOf [".asset_criticality"] [".trust_score"] ++
        ["asset_inventory.attributes.asset_criticality"]) " must be numeric." 8 ∧
    Decides (wordsOf [".asset_criticality"] [".trust_score"] ++
        ["asset_inventory.attributes.asset_criticality"])
      " must be finite and within [0, 1]." 9 ∧
    Decides (wordsOf [".opened_at"] EVENT_TIMESTAMPS) " must be an ISO-8601 timestamp." 5 ∧
    Decides (wordsOf [".opened_at"] EVENT_TIMESTAMPS) " must include an explicit UTC offset." 5 ∧
    Decides ["case.events"] " must be a non-empty array." 20 ∧
    Decides ["case.events"] " exceeds the 10000-event limit." 2 ∧
    Decides [".collected_at"] " cannot precede observed_at." 14 ∧
    Decides [".integrity"] " must be verified, unverified, or failed." 21 ∧
    Decides [".provenance_id", ".untrusted_text"] " must be a string." 22 ∧
    Decides [".entity_refs"] " must be an array." 22 ∧
    Decides [".attributes"] " must contain canonical JSON values." 22 ∧
    Decides [".attributes"] " exceeds the 262144-byte limit." 4 ∧
    Decides [".untrusted_text"] " exceeds the 16384-character limit." 3 ∧
    Decides ((SELECTED_ATTRIBUTES.filter (· ≠ "source_conflict")).map (".attributes." ++ ·))
      " is not authorized for this source_type." 12 ∧
    Decides [".attributes.source_conflict"] " is not authorized for this source_type." 11 ∧
    Decides [".attributes.failed_logins"] " must be an integer." 7 ∧
    Decides [".attributes.failed_logins"] " must be finite and within [0, 1000000]." 9 ∧
    Decides ["asset_inventory"] (" attributes must include asset_id, privilege_level, " ++
      "break_glass, and asset_criticality.") 16 ∧
    Decides ["case.asset_id", "case.privilege_level", "asset_inventory.attributes.asset_id",
      "asset_inventory.attributes.privilege_level"] " must be an identifier." 19 ∧
    ∀ name ∈ INVENTORY_FIELDS,
      Decides ["Canonical"] (" " ++ name ++ " must equal asset_inventory.attributes." ++ name ++ ".") 17 := by
  decide +kernel

/-- The error quotes something of the record. -/
def Violation.Quotes : Violation → Prop
  | .labelLeakage _ | .missingFields _ _ | .unsupportedFields _ _ | .version _ | .identifier _ _
  | .duplicateEventId _ _ | .inventoryMissing _ | .caseMismatch _ _ _ | .duplicateReference _ _ =>
    True
  | _ => False

section Unquoted

variable {lib : Library} {record : Dict} {v : Violation}

/-- A missing text is of the class of identifiers. -/
theorem classify_emptyText {site : Site} (h : (Violation.emptyText site).Reviewed record) :
    classifyContractFailure ((Violation.emptyText site).message lib) record =
      some ("SEMANTICS", "INVALID_IDENTIFIER") := by
  obtain ⟨-, -, hempty, -⟩ := decided
  exact classify_at site hempty (word_mem h) rfl rfl

/-- An attribute without authority is classified by its name. -/
theorem classify_unauthorized {index : Nat} {name : String} (h : name ∈ SELECTED_ATTRIBUTES) :
    classifyContractFailure ((Violation.unauthorized index name).message lib) record =
      some (Violation.unauthorized index name).taxonomy := by
  obtain ⟨-, -, -, -, -, -, -, -, -, -, -, -, -, -, -, -, -, hmodeled, hconflict, -⟩ := decided
  by_cases hname : name = "source_conflict"
  · subst hname
    exact classify_at (.ofEvent index ".attributes.source_conflict") hconflict
      (List.mem_singleton.mpr rfl) rfl rfl
  · have htaxonomy : (Violation.unauthorized index name).taxonomy =
        ("SEMANTICS", "UNAUTHORIZED_MODELED_SIGNAL") := if_neg hname
    rw [htaxonomy]
    refine classify_at (.ofEvent index (".attributes." ++ name)) hmodeled ?_ rfl rfl
    exact List.mem_map_of_mem (List.mem_filter.mpr ⟨h, decide_eq_true hname⟩)

/-- An error that quotes nothing has the class of the taxonomy, but for missing times. -/
theorem classify_unquoted (h : v.Reviewed record) (hquotes : ¬ v.Quotes)
    (hempty : ∀ site, v ≠ .emptyText site) :
    classifyContractFailure (v.message lib) record = some v.taxonomy := by
  obtain ⟨hnonFinite, hnotObject, -, hboolean, hnumeric, hunit, htimestamp, hoffset, hevents,
    hcount, horder, hintegrity, hstring, hreferences, hcanonical, hlarge, hlong, -, -, hinteger,
    hrange, hinventory, hidentifier, hcontext⟩ := decided
  cases v with
  | nonFinite => exact classify_at (.ofCase "") hnonFinite (List.mem_singleton.mpr (by decide)) rfl rfl
  | notObject site => exact classify_at site hnotObject (word_mem h) rfl rfl
  | boolean site => exact classify_at site hboolean (List.mem_append_left _ (word_mem h)) rfl rfl
  | featureBoolean label =>
    subst h
    exact classify_behind _ hboolean (List.mem_append_right _ (List.mem_singleton.mpr rfl)) rfl rfl
  | numeric site => exact classify_at site hnumeric (List.mem_append_left _ (word_mem h)) rfl rfl
  | featureNumeric label =>
    subst h
    exact classify_behind _ hnumeric (List.mem_append_right _ (List.mem_singleton.mpr rfl)) rfl rfl
  | unitInterval site => exact classify_at site hunit (List.mem_append_left _ (word_mem h)) rfl rfl
  | featureUnitInterval label =>
    subst h
    exact classify_behind _ hunit (List.mem_append_right _ (List.mem_singleton.mpr rfl)) rfl rfl
  | timestamp site => exact classify_at site htimestamp (word_mem h) rfl rfl
  | offset site => exact classify_at site hoffset (word_mem h) rfl rfl
  | eventsNotArray =>
    refine classify_at (.ofCase ".events") hevents (List.mem_singleton.mpr (by decide)) rfl ?_
    refine congrArg some ?_
    cases hvalue : Dict.get record "events" with
    | arr events => exact absurd hvalue (h events)
    | null | bool | int | float | str | obj =>
      simp only [hvalue]
      rfl
  | eventsEmpty =>
    refine classify_at (.ofCase ".events") hevents (List.mem_singleton.mpr (by decide)) rfl ?_
    refine congrArg some ?_
    have hvalue : Dict.get record "events" = .arr [] := h
    simp only [hvalue]
    rfl
  | eventCount => exact classify_at (.ofCase ".events") hcount (List.mem_singleton.mpr (by decide)) rfl rfl
  | timeOrder index =>
    exact classify_at (.ofEvent index ".collected_at") horder (List.mem_singleton.mpr rfl) rfl rfl
  | integrity index =>
    exact classify_at (.ofEvent index ".integrity") hintegrity (List.mem_singleton.mpr rfl) rfl rfl
  | provenance index =>
    exact classify_at (.ofEvent index ".provenance_id") hstring List.mem_cons_self rfl rfl
  | referencesNotArray index =>
    exact classify_at (.ofEvent index ".entity_refs") hreferences (List.mem_singleton.mpr rfl) rfl rfl
  | attributesNotCanonical index =>
    exact classify_at (.ofEvent index ".attributes") hcanonical (List.mem_singleton.mpr rfl) rfl rfl
  | attributesTooLarge index =>
    exact classify_at (.ofEvent index ".attributes") hlarge (List.mem_singleton.mpr rfl) rfl rfl
  | textNotString index =>
    exact classify_at (.ofEvent index ".untrusted_text") hstring
      (List.mem_cons_of_mem _ List.mem_cons_self) rfl rfl
  | textTooLong index =>
    exact classify_at (.ofEvent index ".untrusted_text") hlong (List.mem_singleton.mpr rfl) rfl rfl
  | unauthorized index name => exact classify_unauthorized h
  | integer index name =>
    subst h
    exact classify_at (.ofEvent index ".attributes.failed_logins") hinteger
      (List.mem_singleton.mpr rfl) rfl rfl
  | attributeRange index name =>
    subst h
    exact classify_at (.ofEvent index ".attributes.failed_logins") hrange
      (List.mem_singleton.mpr rfl) rfl rfl
  | inventoryIncomplete => exact classify_behind "asset_inventory" hinventory (List.mem_singleton.mpr rfl) rfl rfl
  | featureIdentifier label => exact classify_behind label hidentifier h rfl rfl
  | contextMismatch name =>
    exact classify_behind "Canonical" (hcontext name h) (List.mem_singleton.mpr rfl) rfl rfl
  | emptyText site => exact absurd rfl (hempty site)
  | recordNotObject | fileDuplicateCase | fileDuplicateEvent => exact h.elim
  | labelLeakage | missingFields | unsupportedFields | version | identifier | duplicateEventId
  | inventoryMissing | caseMismatch | duplicateReference => exact absurd trivial hquotes

end Unquoted

/-! ## §5 Texts that quote identifiers -/

section Quoted

variable {lib : Library} {record : Dict} {message : String} {fragment : List Char} {n : Nat}

/-- A quote cuts a text. -/
theorem occurs_reprText (h : StandsAlone fragment) (before after : List Char) (s : String) :
    occurs fragment (before ++ ((reprText lib s).toList ++ after)) =
      (occurs fragment before || (occurs fragment (reprBody lib s) || occurs fragment after)) := by
  obtain ⟨-, hsingle, hdouble, -⟩ := h
  have hquote : reprQuote s ∉ fragment := by
    unfold reprQuote
    split
    · exact hdouble
    · exact hsingle
  have htext : (reprText lib s).toList ++ after =
      reprQuote s :: (reprBody lib s ++ reprQuote s :: after) := by
    simp [reprText]
  rw [htext, Lib.occurs_append_cons hquote, Lib.occurs_append_cons hquote]

theorem printable_of_isIdentifierChar {c : Char} (h : isIdentifierChar c = true) :
    32 < c.toNat ∧ c.toNat < 127 := by
  unfold isIdentifierChar at h
  simp only [Char.isAlphanum, Char.isAlpha, Char.isUpper, Char.isLower, Char.isDigit,
    Bool.or_eq_true, Bool.and_eq_true, decide_eq_true_eq, beq_iff_eq, ge_iff_le] at h
  unfold Char.toNat
  rcases h with ((((((⟨h, h'⟩ | ⟨h, h'⟩) | ⟨h, h'⟩) | rfl) | rfl) | rfl) | rfl)
  · have hlow : 65 ≤ c.val.toNat := h
    have hhigh : c.val.toNat ≤ 90 := h'
    omega
  · have hlow : 97 ≤ c.val.toNat := h
    have hhigh : c.val.toNat ≤ 122 := h'
    omega
  · have hlow : 48 ≤ c.val.toNat := h
    have hhigh : c.val.toNat ≤ 57 := h'
    omega
  all_goals decide

/-- An identifier is quoted without blanks. -/
theorem not_mem_reprBody {s : String} (h : IsIdentifier s) : ' ' ∉ reprBody lib s := by
  obtain ⟨-, -, hchars⟩ := h
  intro hmem
  obtain ⟨c, hc, hblank⟩ := List.mem_flatMap.mp hmem
  obtain ⟨hlow, hhigh⟩ := printable_of_isIdentifierChar (hchars c hc)
  have hne : ' ' ≠ c := by
    rintro rfl
    exact absurd hlow (by decide)
  unfold reprChar at hblank
  dsimp only at hblank
  rw [if_pos (⟨hlow.le, hhigh⟩ : 32 ≤ c.toNat ∧ c.toNat < 127)] at hblank
  split_ifs at hblank <;> simp [hne] at hblank

theorem blank_not_mem_of_occurs {s : String} (h : IsIdentifier s)
    (hoccurs : occurs fragment (reprBody lib s) = true) : ' ' ∉ fragment := by
  intro hmem
  rw [Lib.occurs_eq_false hmem (not_mem_reprBody h)] at hoccurs
  cases hoccurs

/-- Where fragments without blanks may occur besides, the class has this number. -/
def DecidesAround (static : List Char → Bool) (n : Nat) : Prop :=
  Settles n (fun f => !f.contains ' ' || static f) static = true

instance decidableDecidesAround (static : List Char → Bool) (n : Nat) :
    Decidable (DecidesAround static n) :=
  inferInstanceAs (Decidable (_ = true))

theorem decided_around :
    DecidesAround (fun f => occursBehind ' ' f ".case_id".toList [] ||
      occurs f " does not match parent case ".toList) 13 ∧
    DecidesAround (fun f => occurs f "Case ".toList ||
      occurs f " requires at least one asset_inventory event.".toList) 15 ∧
    DecidesAround (fun f => occursBehind ' ' f ".entity_refs".toList "contains duplicate ".toList)
      18 := by
  decide +kernel

/-- The class of a text that quotes identifiers. -/
theorem classify_around {static : List Char → Bool} {failure : FailureClass}
    (h : DecidesAround static n)
    (hupper : ∀ fragment ∈ FRAGMENTS, occurs fragment.toList message.toList = true →
      static fragment.toList = true ∨ ' ' ∉ fragment.toList)
    (hlower : ∀ fragment ∈ FRAGMENTS, static fragment.toList = true →
      occurs fragment.toList message.toList = true)
    (houtcome : CLASSIFICATION[n]?.map (·.outcome record) = some failure) :
    classifyContractFailure message record = some failure := by
  rw [← houtcome]
  refine classify_of_settles h (fun fragment hfragment hoccurs => ?_) hlower
  rcases hupper fragment hfragment hoccurs with hstatic | hblank
  · rw [hstatic, Bool.or_true]
  · simp [hblank]

theorem classify_inventoryMissing {caseId : String} (h : IsIdentifier caseId) :
    classifyContractFailure ((Violation.inventoryMissing caseId).message lib) record =
      some ("SEMANTICS", "CANONICAL_CONTEXT_MISSING") := by
  obtain ⟨-, hdecided, -⟩ := decided_around
  have htext : ((Violation.inventoryMissing caseId).message lib).toList =
      "Case ".toList ++ ((reprText lib caseId).toList ++
        " requires at least one asset_inventory event.".toList) := by
    show ("Case " ++ reprText lib caseId ++
      " requires at least one asset_inventory event.").toList = _
    rw [String.toList_append, String.toList_append, List.append_assoc]
  refine classify_around hdecided (fun fragment hfragment hoccurs => ?_)
    (fun fragment hfragment hstatic => ?_) rfl
  · rw [htext, occurs_reprText (fragments_stand_alone fragment hfragment), Bool.or_eq_true,
      Bool.or_eq_true] at hoccurs
    rcases hoccurs with hbefore | hquoted | hafter
    · exact .inl (Bool.or_eq_true_iff.mpr (.inl hbefore))
    · exact .inr (blank_not_mem_of_occurs h hquoted)
    · exact .inl (Bool.or_eq_true_iff.mpr (.inr hafter))
  · rw [htext, occurs_reprText (fragments_stand_alone fragment hfragment), Bool.or_eq_true,
      Bool.or_eq_true]
    rcases Bool.or_eq_true_iff.mp hstatic with hbefore | hafter
    · exact .inl hbefore
    · exact .inr (.inr hafter)

theorem classify_duplicateReference {index : Nat} {reference : String} (h : IsIdentifier reference) :
    classifyContractFailure ((Violation.duplicateReference index reference).message lib) record =
      some ("SEMANTICS", "DUPLICATE_ENTITY_REFERENCE") := by
  obtain ⟨-, -, hdecided⟩ := decided_around
  have htext : ((Violation.duplicateReference index reference).message lib).toList =
      ((Site.ofEvent index ".entity_refs").label.toList ++ ' ' :: "contains duplicate ".toList) ++
        ((reprText lib reference).toList ++ ['.']) := by
    have hblank : ' ' :: "contains duplicate ".toList = " contains duplicate ".toList := by simp
    have hdot : ['.'] = ".".toList := by simp
    show ((Site.ofEvent index ".entity_refs").label ++ " contains duplicate " ++
      reprText lib reference ++ ".").toList = _
    rw [hblank, hdot, String.toList_append, String.toList_append, String.toList_append,
      List.append_assoc]
  have hblank : ' ' ∉ (Site.ofEvent index ".entity_refs").word.toList := by
    simp [Site.word, Site.ofEvent]
  have hoccurs : ∀ fragment ∈ FRAGMENTS,
      occurs fragment.toList ((Violation.duplicateReference index reference).message lib).toList =
        (occursBehind ' ' fragment.toList ".entity_refs".toList "contains duplicate ".toList ||
          occurs fragment.toList (reprBody lib reference)) := by
    intro fragment hfragment
    have halone := fragments_stand_alone fragment hfragment
    obtain ⟨-, -, -, hdot, -⟩ := id halone
    rw [htext, occurs_reprText halone, occurs_label halone, Lib.occurs_eq_occursBehind hblank, hdot,
      Bool.or_false]
    rfl
  refine classify_around hdecided (fun fragment hfragment hfound => ?_)
    (fun fragment hfragment hstatic => ?_) rfl
  · rw [hoccurs fragment hfragment, Bool.or_eq_true] at hfound
    exact hfound.imp_right (blank_not_mem_of_occurs h)
  · rw [hoccurs fragment hfragment, hstatic, Bool.true_or]

theorem classify_caseMismatch {index : Nat} {eventCaseId caseId : String}
    (h : IsIdentifier eventCaseId) (h' : IsIdentifier caseId) :
    classifyContractFailure ((Violation.caseMismatch index eventCaseId caseId).message lib) record =
      some ("SEMANTICS", "CASE_EVENT_ID_MISMATCH") := by
  obtain ⟨hdecided, -, -⟩ := decided_around
  have htext : ((Violation.caseMismatch index eventCaseId caseId).message lib).toList =
      ((Site.ofEvent index ".case_id").label.toList ++ ' ' :: []) ++
        ((reprText lib eventCaseId).toList ++ (" does not match parent case ".toList ++
          ((reprText lib caseId).toList ++ ['.']))) := by
    have hblank : ' ' :: [] = " ".toList := by simp
    have hdot : ['.'] = ".".toList := by simp
    show ((Site.ofEvent index ".case_id").label ++ " " ++ reprText lib eventCaseId ++
      " does not match parent case " ++ reprText lib caseId ++ ".").toList = _
    rw [hblank, hdot, String.toList_append, String.toList_append, String.toList_append,
      String.toList_append, String.toList_append, List.append_assoc, List.append_assoc,
      List.append_assoc]
  have hblank : ' ' ∉ (Site.ofEvent index ".case_id").word.toList := by
    simp [Site.word, Site.ofEvent]
  have hoccurs : ∀ fragment ∈ FRAGMENTS,
      occurs fragment.toList ((Violation.caseMismatch index eventCaseId caseId).message lib).toList =
        (occursBehind ' ' fragment.toList ".case_id".toList [] ||
          (occurs fragment.toList (reprBody lib eventCaseId) ||
            (occurs fragment.toList " does not match parent case ".toList ||
              occurs fragment.toList (reprBody lib caseId)))) := by
    intro fragment hfragment
    have halone := fragments_stand_alone fragment hfragment
    obtain ⟨-, -, -, hdot, -⟩ := id halone
    rw [htext, occurs_reprText halone, occurs_reprText halone, occurs_label halone,
      Lib.occurs_eq_occursBehind hblank, hdot, Bool.or_false]
    rfl
  refine classify_around hdecided (fun fragment hfragment hfound => ?_)
    (fun fragment hfragment hstatic => ?_) rfl
  · rw [hoccurs fragment hfragment, Bool.or_eq_true, Bool.or_eq_true, Bool.or_eq_true] at hfound
    rcases hfound with hbefore | hquoted | hbetween | hquoted
    · exact .inl (Bool.or_eq_true_iff.mpr (.inl hbefore))
    · exact .inr (blank_not_mem_of_occurs h hquoted)
    · exact .inl (Bool.or_eq_true_iff.mpr (.inr hbetween))
    · exact .inr (blank_not_mem_of_occurs h' hquoted)
  · rw [hoccurs fragment hfragment, Bool.or_eq_true, Bool.or_eq_true, Bool.or_eq_true]
    rcases Bool.or_eq_true_iff.mp hstatic with hbefore | hbetween
    · exact .inl hbefore
    · exact .inr (.inr (.inl hbetween))

end Quoted

/-! ## §6 Texts that quote what was rejected -/

section Rejected

variable {lib : Library} {record : Dict} {message : String} {site : Site} {n : Nat}

/-- Where an earlier test succeeds, the class is one of the earlier ones. -/
theorem classify_of_earlier {earlier : Rule} (hearlier : earlier ∈ CLASSIFICATION.take n)
    (hfires : earlier.fires message = true) :
    ∃ rule ∈ CLASSIFICATION.take n,
      classifyContractFailure message record = some (rule.outcome record) := by
  cases hfind : (CLASSIFICATION.take n).find? (·.fires message) with
  | none =>
    have hnone := List.find?_eq_none.mp hfind earlier hearlier
    exact absurd hfires hnone
  | some rule =>
    refine ⟨rule, List.mem_of_find?_eq_some hfind, ?_⟩
    have hwhole : CLASSIFICATION.find? (·.fires message) = some rule := by
      rw [← List.take_append_drop n CLASSIFICATION, List.find?_append, hfind]
      rfl
    rw [classifyContractFailure, hwhole]
    rfl

theorem classify_missingFields (names : List String) :
    classifyContractFailure ((Violation.missingFields site names).message lib) record =
      some ("STRUCTURE", "MISSING_REQUIRED_FIELD") := by
  have hoccurs : occurs "missing required fields".toList
      ((Violation.missingFields site names).message lib).toList = true := by
    refine Lib.occurs_iff.mpr ⟨(site.label ++ " is ").toList,
      (": " ++ ", ".intercalate names ++ ".").toList, ?_⟩
    show _ = (site.label ++ " is missing required fields: " ++ ", ".intercalate names ++
      ".").toList
    simp
  refine classify_of_first (n := 0) rfl (fun earlier h => (by cases h)) ?_
  exact Bool.or_eq_true_iff.mpr (.inl (Bool.and_eq_true_iff.mpr ⟨hoccurs, rfl⟩))

/-- What occurs in a list of names occurs in one of them. -/
theorem occurs_names {pattern : List Char} {a : Char} (hcomma : ',' ∉ a :: pattern) (ha : a ≠ ' ')
    (names : List String) :
    occurs (a :: pattern) (", ".intercalate names).toList =
      names.any fun name => occurs (a :: pattern) name.toList := by
  induction names with
  | nil => rfl
  | cons name names ih =>
    cases names with
    | nil =>
      rw [String.intercalate_singleton, List.any_cons, List.any_nil, Bool.or_false]
    | cons next names =>
      have htext : (", ".intercalate (name :: next :: names)).toList =
          name.toList ++ ',' :: ' ' :: (", ".intercalate (next :: names)).toList := by
        rw [String.intercalate_cons_cons]
        simp
      rw [htext, Lib.occurs_append_cons hcomma, Lib.occurs_cons_of_ne ha, ih]
      simp only [List.any_cons]

/-- The names of unsupported fields are read as well. -/
theorem occurs_unsupportedFields (h : site.Among [""] [""]) (names : List String) :
    occurs "missing required fields".toList
        ((Violation.unsupportedFields site names).message lib).toList = true ↔
      ∃ name ∈ names, occurs "missing required fields".toList name.toList = true := by
  have hfragment : "missing required fields" ∈ FRAGMENTS := List.mem_cons_self
  have hword : ∀ word ∈ ["case", ""], ' ' ∉ word.toList ∧
      occursBehind ' ' "missing required fields".toList word.toList
        "contains unsupported fields".toList = false := by
    decide +kernel
  have hcharacters : "missing required fields".toList =
      'm' :: "issing required fields".toList := by simp
  have hcolon : ':' ∉ "missing required fields".toList := by simp
  have hcomma : ',' ∉ 'm' :: "issing required fields".toList := by simp
  have hdot : '.' ∉ "missing required fields".toList := by simp
  have htext : ((Violation.unsupportedFields site names).message lib).toList =
      (site.label.toList ++ ' ' :: "contains unsupported fields".toList) ++
        ':' :: ' ' :: ((", ".intercalate names).toList ++ '.' :: []) := by
    show (site.label ++ " contains unsupported fields: " ++ ", ".intercalate names ++
      ".").toList = _
    simp
  obtain ⟨hblank, hbehind⟩ := hword site.word (by
    have hmem := word_mem h
    simpa [wordsOf] using hmem)
  rw [htext, Lib.occurs_append_cons hcolon, occurs_label (fragments_stand_alone _ hfragment),
    Lib.occurs_eq_occursBehind hblank, hbehind, Bool.false_or, hcharacters,
    Lib.occurs_cons_of_ne (by decide), ← hcharacters, Lib.occurs_append_cons hdot, hcharacters,
    occurs_names hcomma (by decide)]
  simp [occurs]

/-- Unsupported fields have the class of the taxonomy where no name is misread. -/
theorem classify_unsupportedFields (h : site.Among [""] [""]) (names : List String) :
    ∃ failure, classifyContractFailure ((Violation.unsupportedFields site names).message lib)
        record = some failure ∧
      (failure = ("STRUCTURE", "UNEXPECTED_FIELD") ↔
        ¬ (Violation.unsupportedFields site names).Misread lib) := by
  by_cases hmisread : (Violation.unsupportedFields site names).Misread lib
  · have hfires : (Rule.of "missing required fields"
        ("STRUCTURE", "MISSING_REQUIRED_FIELD")).fires
          ((Violation.unsupportedFields site names).message lib) = true :=
      Bool.or_eq_true_iff.mpr (.inl (Bool.and_eq_true_iff.mpr
        ⟨(occurs_unsupportedFields h names).mpr hmisread, rfl⟩))
    refine ⟨("STRUCTURE", "MISSING_REQUIRED_FIELD"),
      classify_of_first (n := 0) rfl (fun earlier h => (by cases h)) hfires, ?_⟩
    exact ⟨fun heq => absurd heq (by decide), fun hnot => absurd hmisread hnot⟩
  · refine ⟨("STRUCTURE", "UNEXPECTED_FIELD"), classify_of_first (n := 1) rfl ?_ ?_,
      fun _ => hmisread, fun _ => rfl⟩
    · intro earlier hearlier
      obtain rfl := List.mem_singleton.mp hearlier
      have hnot := mt (@occurs_unsupportedFields lib site h names).mp hmisread
      show (occurs _ _ && true || false) = false
      rw [Bool.or_false, Bool.and_true]
      exact Bool.eq_false_iff.mpr hnot
    · have hoccurs : occurs "contains unsupported fields".toList
          ((Violation.unsupportedFields site names).message lib).toList = true := by
        refine Lib.occurs_iff.mpr ⟨(site.label ++ " ").toList,
          (": " ++ ", ".intercalate names ++ ".").toList, ?_⟩
        show _ = (site.label ++ " contains unsupported fields: " ++ ", ".intercalate names ++
          ".").toList
        simp
      exact Bool.or_eq_true_iff.mpr (.inl (Bool.and_eq_true_iff.mpr ⟨hoccurs, rfl⟩))

/-- What stands between a place and the text that is no identifier. -/
def IDENTIFIER_TEXT : String := " must match " ++ IDENTIFIER_PATTERN ++ "; received "

/-- Around the quoted text only the field's name is looked for; the test of identifiers
succeeds. -/
def IdentifierText (word field : String) : Prop :=
  ' ' ∉ word.toList ∧
    (∀ rule ∈ EARLIER_RULES, ∀ fragment ∈ rule.fragments.flatten,
      occursBehind ' ' fragment.toList word.toList IDENTIFIER_TEXT.toList.tail =
        occurs fragment.toList field.toList) ∧
    (CLASSIFICATION[19]?.any fun rule => rule.firesOn fun fragment =>
      occursBehind ' ' fragment word.toList IDENTIFIER_TEXT.toList.tail) = true

instance decidableIdentifierText (word field : String) : Decidable (IdentifierText word field) :=
  inferInstanceAs (Decidable (_ ∧ _))

theorem identifierTexts : (∀ field ∈ CASE_IDENTIFIERS, IdentifierText ("case" ++ field) field) ∧
    ∀ field ∈ EVENT_IDENTIFIERS, IdentifierText field field := by
  decide +kernel

theorem identifierText_of_among (h : site.Among CASE_IDENTIFIERS EVENT_IDENTIFIERS) :
    IdentifierText site.word site.field := by
  obtain ⟨event, field⟩ := site
  cases event with
  | none => exact identifierTexts.1 field h
  | some index => exact identifierTexts.2 field h

/-- What occurs in the error of an identifier. -/
theorem occurs_identifier (h : site.Among CASE_IDENTIFIERS EVENT_IDENTIFIERS) (candidate : String)
    {fragment : String} (hfragment : fragment ∈ FRAGMENTS) :
    occurs fragment.toList ((Violation.identifier site candidate).message lib).toList =
      (occursBehind ' ' fragment.toList site.word.toList IDENTIFIER_TEXT.toList.tail ||
        occurs fragment.toList (reprBody lib candidate)) := by
  have halone := fragments_stand_alone fragment hfragment
  obtain ⟨-, -, -, hdot, -⟩ := id halone
  have htext : ((Violation.identifier site candidate).message lib).toList =
      (site.label.toList ++ ' ' :: IDENTIFIER_TEXT.toList.tail) ++
        ((reprText lib candidate).toList ++ ".".toList) := by
    have hblank : ' ' :: IDENTIFIER_TEXT.toList.tail = IDENTIFIER_TEXT.toList := by decide +kernel
    rw [hblank]
    show (site.label ++ " must match " ++ IDENTIFIER_PATTERN ++ "; received " ++
      reprText lib candidate ++ ".").toList = _
    rw [IDENTIFIER_TEXT]
    simp only [String.toList_append, List.append_assoc]
  have hend : ".".toList = ['.'] := by simp
  rw [htext, occurs_reprText halone, occurs_label halone,
    Lib.occurs_eq_occursBehind (identifierText_of_among h).1, hend, hdot, Bool.or_false]

/-- The earlier tests look at the name of the field and at what is quoted. -/
theorem fires_identifier (h : site.Among CASE_IDENTIFIERS EVENT_IDENTIFIERS) (candidate : String)
    {rule : Rule} (hrule : rule ∈ EARLIER_RULES) :
    rule.fires ((Violation.identifier site candidate).message lib) = true ↔
      rule.fires (site.field ++ reprText lib candidate) = true := by
  have hmem : rule ∈ CLASSIFICATION := List.mem_of_mem_take hrule
  have hsame : ∀ fragment ∈ rule.fragments.flatten,
      occurs fragment.toList ((Violation.identifier site candidate).message lib).toList =
        occurs fragment.toList (site.field ++ reprText lib candidate).toList := by
    intro fragment hfragment
    have halone := fragments_stand_alone fragment (mem_FRAGMENTS hmem hfragment)
    obtain ⟨-, -, -, hdot, -⟩ := id halone
    have hnil : occurs fragment.toList [] = false := (Bool.or_eq_false_iff.mp hdot).2
    obtain ⟨-, hfield, -⟩ := identifierText_of_among h
    rw [occurs_identifier h candidate (mem_FRAGMENTS hmem hfragment),
      hfield rule hrule fragment hfragment, String.toList_append]
    have hquoted := @occurs_reprText lib fragment.toList halone site.field.toList [] candidate
    rw [List.append_nil, hnil, Bool.or_false] at hquoted
    exact hquoted.symm
  rw [fires_eq_firesOn, fires_eq_firesOn]
  constructor
  · exact firesOn_mono fun fragment hfragment hfound => (hsame fragment hfragment).symm.trans hfound
  · exact firesOn_mono fun fragment hfragment hfound => (hsame fragment hfragment).trans hfound

/-- The earlier tests are not those of identifiers. -/
theorem outcome_ne_of_earlier {rule : Rule} (h : rule ∈ EARLIER_RULES) (record : Dict) :
    rule.outcome record ≠ ("SEMANTICS", "INVALID_IDENTIFIER") := by
  have hall : EARLIER_RULES.Forall fun rule =>
      rule.outcome record ≠ ("SEMANTICS", "INVALID_IDENTIFIER") := by
    simp [EARLIER_RULES, CLASSIFICATION, Rule.of]
  exact List.forall_iff_forall_mem.mp hall rule h

/-- An identifier has the class of the taxonomy where what is quoted is not misread. -/
theorem classify_identifier (h : site.Among CASE_IDENTIFIERS EVENT_IDENTIFIERS)
    (candidate : String) :
    ∃ failure, classifyContractFailure ((Violation.identifier site candidate).message lib) record =
        some failure ∧
      (failure = ("SEMANTICS", "INVALID_IDENTIFIER") ↔
        ¬ (Violation.identifier site candidate).Misread lib) := by
  by_cases hmisread : (Violation.identifier site candidate).Misread lib
  · obtain ⟨earlier, hearlier, hfires⟩ := id hmisread
    obtain ⟨rule, hrule, hclass⟩ :=
      classify_of_earlier hearlier ((fires_identifier h candidate hearlier).mpr hfires)
    exact ⟨_, hclass, fun heq => absurd heq (outcome_ne_of_earlier hrule record),
      fun hnot => absurd hmisread hnot⟩
  · obtain ⟨-, -, hsucceeds⟩ := identifierText_of_among h
    obtain ⟨rule, hn, hrule⟩ := (Option.any_eq_true _ _).mp hsucceeds
    have hmem : rule ∈ CLASSIFICATION := List.mem_of_getElem? hn
    have hfires : rule.fires ((Violation.identifier site candidate).message lib) = true := by
      rw [fires_eq_firesOn]
      refine firesOn_mono (fun fragment hfragment hfound => ?_) hrule
      rw [occurs_identifier h candidate (mem_FRAGMENTS hmem hfragment), hfound, Bool.true_or]
    refine ⟨_, classify_of_first hn (fun earlier hearlier => ?_) hfires, fun _ => hmisread,
      fun _ => ?_⟩
    · refine Bool.eq_false_iff.mpr fun hfound => hmisread ⟨earlier, hearlier, ?_⟩
      exact (fires_identifier h candidate hearlier).mp hfound
    · cases hn
      rfl

end Rejected

/-! ## §7 Records -/

section Records

variable {lib : Library} {record record' : Dict} {v v' : Violation}

/-- The record passes what comes before the contract and fails one of its checks. -/
structure Reaches (lib : Library) (record : Dict) (v : Violation) : Prop where
  unlabelled : detectRuntimeLabelLeakage "case" (.obj record) = []
  supported : unsupportedVersion record = false
  distinct : (identifierDefinitions record).2.Nodup
  fails : validateCaseRecord lib (.obj record) = .error (.contract v)

/-- Every failure is classified; the class is the one of the taxonomy but for what is misread. -/
theorem classify_of_reaches (h : Reaches lib record v) :
    ∃ failure, classifyContractFailure (v.message lib) record = some failure ∧
      (failure = v.taxonomy ↔ ¬ v.Misread lib) := by
  have hreviewed : v.Reviewed record := by
    rcases raises_validateCaseRecord _ h.fails with heq | hreviewed
    · cases heq
    · exact hreviewed
  by_cases hquotes : v.Quotes
  · cases v with
    | missingFields site names =>
      exact ⟨_, classify_missingFields names, fun _ hmisread => hmisread, fun _ => rfl⟩
    | unsupportedFields site names => exact classify_unsupportedFields hreviewed names
    | identifier site candidate => exact classify_identifier hreviewed candidate
    | inventoryMissing caseId =>
      exact ⟨_, classify_inventoryMissing hreviewed, fun _ hmisread => hmisread, fun _ => rfl⟩
    | caseMismatch index eventCaseId caseId =>
      exact ⟨_, classify_caseMismatch hreviewed.1 hreviewed.2, fun _ hmisread => hmisread,
        fun _ => rfl⟩
    | duplicateReference index reference =>
      exact ⟨_, classify_duplicateReference hreviewed, fun _ hmisread => hmisread, fun _ => rfl⟩
    | labelLeakage paths => exact absurd h.unlabelled hreviewed
    | version value => exact absurd (h.supported.symm.trans hreviewed) (by decide)
    | duplicateEventId eventId caseId => exact absurd h.distinct hreviewed
    | _ => exact hquotes.elim
  · by_cases hempty : ∃ site, v = .emptyText site
    · obtain ⟨site, rfl⟩ := hempty
      refine ⟨_, classify_emptyText hreviewed, ?_⟩
      show _ = (if site.field ∈ TIMESTAMP_FIELDS then _ else _) ↔ ¬ site.field ∈ TIMESTAMP_FIELDS
      split
      next htime => exact ⟨fun heq => absurd heq (by decide), fun hnot => absurd htime hnot⟩
      next htime => exact ⟨fun _ => htime, fun _ => rfl⟩
    · have hclass : classifyContractFailure (v.message lib) record = some v.taxonomy :=
        classify_unquoted hreviewed hquotes fun site heq => hempty ⟨site, heq⟩
      refine ⟨_, hclass, fun _ hmisread => ?_, fun _ => rfl⟩
      cases v with
      | emptyText site => exact hempty ⟨site, rfl⟩
      | identifier | unsupportedFields => exact hquotes trivial
      | _ => exact hmisread

/-- Two records that fail at one check have one class, and it is the one of the taxonomy. -/
def ClassifiedAlike (lib : Library) (record record' : Dict) (v v' : Violation) : Prop :=
  classifyContractFailure (v.message lib) record = some v.taxonomy ∧
    classifyContractFailure (v'.message lib) record' = some v.taxonomy

/-- Failures are always classified, and failures of one check are classified alike exactly where
neither error is misread. -/
theorem classified_alike_iff (h : Reaches lib record v) (h' : Reaches lib record' v')
    (hcheck : v.check = v'.check) :
    ((classifyContractFailure (v.message lib) record).isSome = true ∧
        (classifyContractFailure (v'.message lib) record').isSome = true) ∧
      (ClassifiedAlike lib record record' v v' ↔ ¬ v.Misread lib ∧ ¬ v'.Misread lib) := by
  obtain ⟨failure, hclass, hiff⟩ := classify_of_reaches h
  obtain ⟨failure', hclass', hiff'⟩ := classify_of_reaches h'
  have htaxonomy : v.taxonomy = v'.taxonomy := by
    rw [← taxonomy_check v, hcheck, taxonomy_check]
  refine ⟨⟨by rw [hclass]; rfl, by rw [hclass']; rfl⟩, ?_⟩
  rw [ClassifiedAlike, hclass, hclass', Option.some.injEq, Option.some.injEq, htaxonomy, ← hiff',
    ← htaxonomy, hiff]

end Records

theorem requireNonemptyString_str {site : Site} {s : String} (h : isBlank s = false) :
    requireNonemptyString site (.str s) = .ok s := by
  rw [requireNonemptyString, h]
  rfl

/-- A case whose subject has a name that is no identifier fails there. -/
theorem reaches_of_subject {s : String}
    (hchecks : (isFinite sampleLibrary (.obj (sampleCase s (.str "verified"))) = true ∧
      detectRuntimeLabelLeakage "case" (.obj (sampleCase s (.str "verified"))) = []) ∧
        unsupportedVersion (sampleCase s (.str "verified")) = false ∧
          (identifierDefinitions (sampleCase s (.str "verified"))).2.Nodup ∧
            (requireExactFields CASE_FIELDS (.ofCase "")
              (sampleCase s (.str "verified"))).isOk = true)
    (hblank : isBlank s = false) (hidentifier : ¬ IsIdentifier s) :
    Reaches sampleLibrary (sampleCase s (.str "verified"))
      (.identifier (.ofCase ".subject_id") s) := by
  obtain ⟨⟨hfinite, hclean⟩, hversion, hdistinct, hfields⟩ := hchecks
  refine ⟨hclean, hversion, hdistinct, Lib.bind_eq_error.mpr (.inl ?_)⟩
  have hfields' : requireExactFields CASE_FIELDS (.ofCase "") (sampleCase s (.str "verified")) =
      .ok () := by
    cases h : requireExactFields CASE_FIELDS (.ofCase "") (sampleCase s (.str "verified")) with
    | ok u => rfl
    | error e =>
      rw [h] at hfields
      cases hfields
  have hheld : isBlank "case-1" = false ∧ IsIdentifier "case-1" ∧
      isBlank "2026-01-01T00:00:00+00:00" = false ∧
        sampleLibrary.fromisoformat (replaceZulu "2026-01-01T00:00:00+00:00") =
          some (.aware 63902822400000000) := by
    decide +kernel
  obtain ⟨hcaseBlank, hcaseIdentifier, hopenedBlank, hopenedRead⟩ := hheld
  have hcase : requireIdentifier (.ofCase ".case_id") (.str "case-1") = .ok "case-1" :=
    Lib.bind_eq_ok.mpr ⟨"case-1", requireNonemptyString_str hcaseBlank, if_pos hcaseIdentifier⟩
  have hopened : parseTimestamp sampleLibrary (.ofCase ".opened_at")
      (.str "2026-01-01T00:00:00+00:00") = .ok 63902822400000000 := by
    refine Lib.bind_eq_ok.mpr ⟨_, requireNonemptyString_str hopenedBlank, ?_⟩
    rw [hopenedRead]
  have hsupported : requireVersion (.str "0.2.0") = .ok () := by
    unfold requireVersion
    exact if_pos rfl
  -- the checks in their order, up to the one of the subject
  refine Lib.bind_eq_error.mpr (.inr ⟨(), if_pos hfinite, ?_⟩)
  refine Lib.bind_eq_error.mpr (.inr ⟨(), if_pos hclean, ?_⟩)
  refine Lib.bind_eq_error.mpr (.inr ⟨(), hfields', ?_⟩)
  refine Lib.bind_eq_error.mpr (.inr ⟨(), hsupported, ?_⟩)
  refine Lib.bind_eq_error.mpr (.inr ⟨_, hcase, ?_⟩)
  refine Lib.bind_eq_error.mpr (.inr ⟨_, hopened, ?_⟩)
  refine Lib.bind_eq_error.mpr (.inl (Lib.bind_eq_error.mpr (.inr ⟨s, ?_, if_neg hidentifier⟩)))
  exact requireNonemptyString_str hblank

/-- Three subjects that are no identifiers, the first of which reads like another error. -/
theorem reaches_samples :
    Reaches sampleLibrary (sampleCase "missing required fields" (.str "verified"))
        (.identifier (.ofCase ".subject_id") "missing required fields") ∧
      Reaches sampleLibrary (sampleCase "two words" (.str "verified"))
        (.identifier (.ofCase ".subject_id") "two words") ∧
        Reaches sampleLibrary (sampleCase "-" (.str "verified"))
          (.identifier (.ofCase ".subject_id") "-") := by
  have hfacts : ∀ s ∈ ["missing required fields", "two words", "-"],
      ((isFinite sampleLibrary (.obj (sampleCase s (.str "verified"))) = true ∧
        detectRuntimeLabelLeakage "case" (.obj (sampleCase s (.str "verified"))) = []) ∧
          unsupportedVersion (sampleCase s (.str "verified")) = false ∧
            (identifierDefinitions (sampleCase s (.str "verified"))).2.Nodup ∧
              (requireExactFields CASE_FIELDS (.ofCase "")
                (sampleCase s (.str "verified"))).isOk = true) ∧
        isBlank s = false ∧ ¬ IsIdentifier s := by
    decide +kernel
  have hreaches : ∀ s ∈ ["missing required fields", "two words", "-"],
      Reaches sampleLibrary (sampleCase s (.str "verified"))
        (.identifier (.ofCase ".subject_id") s) := by
    intro s hs
    obtain ⟨hchecks, hblank, hidentifier⟩ := hfacts s hs
    exact reaches_of_subject hchecks hblank hidentifier
  exact ⟨hreaches _ (by simp), hreaches _ (by simp), hreaches _ (by simp)⟩

/-- The rejected text chooses the class. -/
theorem quoted_subject_is_misread :
    Reaches sampleLibrary (sampleCase "missing required fields" (.str "verified"))
        (.identifier (.ofCase ".subject_id") "missing required fields") ∧
      Reaches sampleLibrary (sampleCase "two words" (.str "verified"))
        (.identifier (.ofCase ".subject_id") "two words") ∧
      classifyContractFailure
          ((Violation.identifier (.ofCase ".subject_id") "missing required fields").message
            sampleLibrary) (sampleCase "missing required fields" (.str "verified")) =
        some ("STRUCTURE", "MISSING_REQUIRED_FIELD") ∧
      classifyContractFailure
          ((Violation.identifier (.ofCase ".subject_id") "two words").message sampleLibrary)
          (sampleCase "two words" (.str "verified")) = some ("SEMANTICS", "INVALID_IDENTIFIER") := by
  refine ⟨reaches_samples.1, reaches_samples.2.1, ?_⟩
  decide +kernel

/-- Two subjects that contain nothing of what is looked for are classified alike. -/
theorem classified_alike_iff_example :
    ClassifiedAlike sampleLibrary (sampleCase "two words" (.str "verified"))
      (sampleCase "-" (.str "verified")) (.identifier (.ofCase ".subject_id") "two words")
      (.identifier (.ofCase ".subject_id") "-") := by
  have hread : ∀ s ∈ ["two words", "-"],
      (EARLIER_RULES.any fun rule => rule.fires (".subject_id" ++ reprText sampleLibrary s)) =
        false := by
    decide +kernel
  have hnot : ∀ s ∈ ["two words", "-"],
      ¬ (Violation.identifier (.ofCase ".subject_id") s).Misread sampleLibrary := by
    intro s hs hmisread
    have hany := List.any_eq_true.mpr hmisread
    rw [show (Site.ofCase ".subject_id").field = ".subject_id" from rfl, hread s hs] at hany
    cases hany
  exact (classified_alike_iff reaches_samples.2.1 reaches_samples.2.2 rfl).2.mpr
    ⟨hnot _ (by simp), hnot _ (by simp)⟩

end DecisionFirewall.Replay
