import DecisionFirewall.Lib.Calendar
import DecisionFirewall.Replay.Authorization

/-!
# The Pilot That Gate B Admits

What a loaded authorization promises (`approved_of_load`), and what a pilot has to be to pass the
gates behind it: the count, the exact quarantine rates and the time window (`admits_iff`).

- §1 what the checks say
- §2 what the parts say
- §3 the approved package
- §4 the pilot
- §5 a package that is approved
-/

namespace DecisionFirewall.Replay.GateB

open Lib (Decimal eachInOrder sortBy bind_eq_ok)
open Phase3 (Bytes)

/-! ## §1 What the checks say -/

section Checks

variable {lib : Library} {env : Environment} {fs : FileSystem} {value : Json} {fields : Dict}
variable {label s : String} {names : List String}

theorem isText_iff {text : String} : isText value text = true ↔ value = .str text := by
  cases value with
  | str s =>
    constructor
    · exact fun h => congrArg Json.str (beq_iff_eq.mp h)
    · exact fun h => beq_iff_eq.mpr (Json.str.inj h)
  | null | bool | int | float | arr | obj =>
    exact iff_of_false (fun h => by cases h) fun h => by cases h

theorem exactFields_eq_ok {required : List String} (h : exactFields value required label = .ok fields) :
    value = .obj fields := by
  cases value with
  | obj members =>
    unfold exactFields at h
    dsimp only at h
    split_ifs at h
    cases h
    rfl
  | null | bool | int | float | str | arr => cases h

theorem nonempty_eq_ok (h : nonempty value label = .ok s) :
    value = .str s ∧ isBlank s = false ∧ s.toList.length ≤ MAX_TEXT_CHARS := by
  cases value with
  | str s' =>
    unfold nonempty at h
    dsimp only at h
    split_ifs at h with hrefused
    cases h
    obtain ⟨hblank, hlong⟩ := not_or.mp hrefused
    exact ⟨rfl, Bool.eq_false_iff.mpr hblank, Nat.not_lt.mp hlong⟩
  | null | bool | int | float | arr | obj => cases h

theorem identifier_eq_ok (h : identifier value label = .ok s) : value = .str s ∧ IsIdentifier s := by
  obtain ⟨candidate, hcandidate, h⟩ := bind_eq_ok.mp h
  obtain ⟨u, hidentifier, h⟩ := bind_eq_ok.mp h
  cases h
  exact ⟨(nonempty_eq_ok hcandidate).1, require_eq_ok.mp hidentifier⟩

theorem sha256Text_eq_ok {allowPlaceholder : Bool}
    (h : sha256Text value label allowPlaceholder = .ok s) : value = .str s ∧ IsSha256 s := by
  cases value with
  | str s' =>
    unfold sha256Text at h
    dsimp only at h
    split_ifs at h with hdigest hplaceholder
    cases h
    exact ⟨rfl, hdigest⟩
  | null | bool | int | float | arr | obj => cases h

theorem boolean_eq_ok {flag : Bool} (h : boolean value label = .ok flag) : value = .bool flag := by
  cases value with
  | bool b =>
    cases h
    rfl
  | null | int | float | str | arr | obj => cases h

theorem le_of_integer {minimum n : Int} (h : integer lib value label minimum = .ok n) :
    minimum ≤ n := by
  unfold integer at h
  cases value with
  | int m =>
    dsimp only at h
    split_ifs at h with hle
    cases h
    exact hle
  | float repr =>
    dsimp only at h
    cases hvalue : lib.floatValue repr with
    | none =>
      rw [hvalue] at h
      cases h
    | some x =>
      rw [hvalue] at h
      dsimp only at h
      split_ifs at h with hwhole
      cases h
      exact hwhole.2
  | null | bool | str | arr | obj => cases h

theorem rate_of_rateOf {d : Decimal} (h : rateOf value label = .ok d) : rate value label = .ok d := by
  unfold rateOf at h
  cases hrate : rate value label with
  | error e =>
    rw [hrate] at h
    cases h
  | ok candidate =>
    rw [hrate] at h
    cases h
    rfl

theorem unit_of_rate {d : Decimal} (h : rate value label = .ok d) : 0 ≤ d.value ∧ d.value ≤ 1 := by
  unfold rate at h
  cases value with
  | int n => exact (of_inUnitInterval h).2
  | float repr =>
    dsimp only at h
    split at h
    · cases h
    · split at h
      · exact (of_inUnitInterval h).2
      · cases h
  | null | bool | str | arr | obj => cases h

theorem readBoundedRegularFile_eq_ok {path : String} {maximum : Nat} {content : Bytes}
    (h : readBoundedRegularFile fs path label maximum = .ok content) :
    fs.opened path = .regular content ∧ content.length ≤ maximum := by
  unfold readBoundedRegularFile at h
  cases hopened : fs.opened path with
  | unreadable | irregular =>
    rw [hopened] at h
    cases h
  | regular content' =>
    rw [hopened] at h
    dsimp only at h
    split_ifs at h with hlarge
    cases h
    exact ⟨rfl, Nat.not_lt.mp hlarge⟩
  | changing content' =>
    rw [hopened] at h
    dsimp only at h
    split_ifs at h

theorem safeFileBytesAndDigest_eq_ok {path : String} {maximum : Nat} {file : Bytes × String}
    (h : safeFileBytesAndDigest env fs path label maximum = .ok file) :
    fs.opened path = .regular file.1 ∧ file.1.length ≤ maximum ∧ file.2 = env.sha256 file.1 := by
  obtain ⟨raw, hraw, h⟩ := bind_eq_ok.mp h
  cases h
  obtain ⟨hopened, hlength⟩ := readBoundedRegularFile_eq_ok hraw
  exact ⟨hopened, hlength, rfl⟩

/-- A document that is loaded is the object that its bytes are. -/
theorem loadBoundedJsonObject_eq_ok {path : String} {document : Document}
    (h : loadBoundedJsonObject env fs path label = .ok document) :
    fs.opened path = .regular document.sourceBytes ∧
      document.sourceSha256 = env.sha256 document.sourceBytes ∧
        parseControlDocument env document.sourceBytes = .ok (.obj document.value) := by
  obtain ⟨raw, hraw, h⟩ := bind_eq_ok.mp h
  have hopened := (readBoundedRegularFile_eq_ok hraw).1
  cases hparse : parseControlDocument env raw with
  | error e =>
    rw [hparse] at h
    cases e <;> cases h
  | ok parsed =>
    rw [hparse] at h
    cases parsed with
    | obj value =>
      cases h
      exact ⟨hopened, rfl, hparse⟩
    | null | bool | int | float | str | arr => cases h

theorem requiredTrue_eq_ok {refused : String → Exception}
    (h : requiredTrue fields label refused names = .ok ()) :
    ∀ name ∈ names, fields.get name = .bool true := by
  induction names with
  | nil => exact List.forall_mem_nil _
  | cons name names ih =>
    obtain ⟨flag, hflag, h⟩ := bind_eq_ok.mp h
    obtain ⟨u, htrue, h⟩ := bind_eq_ok.mp h
    refine List.forall_mem_cons.mpr ⟨?_, ih h⟩
    rw [boolean_eq_ok hflag, require_eq_ok.mp htrue]

theorem requiredFalse_eq_ok {entries : List (String × FailureIdentity)}
    (h : requiredFalse fields entries = .ok ()) :
    ∀ entry ∈ entries, fields.get entry.1 = .bool false := by
  induction entries with
  | nil => exact List.forall_mem_nil _
  | cons entry entries ih =>
    obtain ⟨flag, hflag, h⟩ := bind_eq_ok.mp h
    obtain ⟨u, hfalse, h⟩ := bind_eq_ok.mp h
    refine List.forall_mem_cons.mpr ⟨?_, ih h⟩
    rw [boolean_eq_ok hflag, require_eq_ok.mp hfalse]

theorem nodup_snoc {xs : List String} {x : String} (h : xs.Nodup) (hx : x ∉ xs) :
    (xs ++ [x]).Nodup := by
  refine List.nodup_append.mpr ⟨h, List.nodup_singleton x, fun a ha b hb heq => ?_⟩
  have hsame : a = x := heq.trans (List.mem_singleton.mp hb)
  exact hx (hsame ▸ ha)

end Checks

/-! ## §2 What the parts say -/

section Parts

variable {lib : Library} {env : Environment} {fs : FileSystem} {request : Request}
variable {value : Json} {fields : Dict} {interval : Interval}

theorem authorizationHead_eq_ok {manifest : ManifestControl} {config : ReplayConfig}
    {head : AuthorizationHead} (h : authorizationHead manifest config fields = .ok head) :
    manifest.dataOrigin = "HISTORICAL_DEIDENTIFIED" ∧ config.executionMode = "HISTORICAL_REPLAY" ∧
      config.recordFailurePolicy = "QUARANTINE_RECORD" ∧ head.datasetId = manifest.datasetId ∧
        head.manifestDigest = manifest.sourceSha256 := by
  obtain ⟨_, -, h⟩ := bind_eq_ok.mp h
  obtain ⟨_, -, h⟩ := bind_eq_ok.mp h
  obtain ⟨_, -, h⟩ := bind_eq_ok.mp h
  obtain ⟨_, horigin, h⟩ := bind_eq_ok.mp h
  obtain ⟨_, hmode, h⟩ := bind_eq_ok.mp h
  obtain ⟨_, hpolicy, h⟩ := bind_eq_ok.mp h
  obtain ⟨authorizationId, -, h⟩ := bind_eq_ok.mp h
  obtain ⟨datasetId, -, h⟩ := bind_eq_ok.mp h
  obtain ⟨_, hdataset, h⟩ := bind_eq_ok.mp h
  obtain ⟨manifestDigest, -, h⟩ := bind_eq_ok.mp h
  obtain ⟨_, hdigest, h⟩ := bind_eq_ok.mp h
  obtain ⟨_, -, h⟩ := bind_eq_ok.mp h
  obtain ⟨_, -, h⟩ := bind_eq_ok.mp h
  cases h
  exact ⟨require_eq_ok.mp horigin, require_eq_ok.mp hmode, require_eq_ok.mp hpolicy,
    require_eq_ok.mp hdataset, require_eq_ok.mp hdigest⟩

theorem authorizationInterval_eq_ok {now : Option Int}
    (h : authorizationInterval lib now fields = .ok interval) :
    interval.windowStart < interval.windowEnd ∧
      ∃ current, now = some current ∧ interval.validFrom ≤ current ∧
        current < interval.expiresAt := by
  obtain ⟨windowStart, -, h⟩ := bind_eq_ok.mp h
  obtain ⟨windowEnd, -, h⟩ := bind_eq_ok.mp h
  obtain ⟨validFrom, -, h⟩ := bind_eq_ok.mp h
  obtain ⟨expiresAt, -, h⟩ := bind_eq_ok.mp h
  obtain ⟨_, hwindow, h⟩ := bind_eq_ok.mp h
  obtain ⟨_, -, h⟩ := bind_eq_ok.mp h
  obtain ⟨current, hcurrent, h⟩ := bind_eq_ok.mp h
  obtain ⟨_, hfrom, h⟩ := bind_eq_ok.mp h
  obtain ⟨_, huntil, h⟩ := bind_eq_ok.mp h
  cases h
  refine ⟨require_eq_ok.mp hwindow, current, ?_, require_eq_ok.mp hfrom, require_eq_ok.mp huntil⟩
  cases now with
  | none => cases hcurrent
  | some now => exact congrArg some (Except.ok.inj hcurrent)

/-- The row is an approval under this role by this identity, in time. -/
def ApprovedBy (lib : Library) (validFrom : Int) (role approver : String) (row : Json) : Prop :=
  ∃ (approval : Dict) (label : String) (approvedAt : Int), row = .obj approval ∧
    approval.get "role" = .str role ∧ approval.get "status" = .str "APPROVED" ∧ approval.get "approver_id" = .str approver ∧
      timestamp lib (approval.get "approved_at") label = .ok approvedAt ∧ approvedAt ≤ validFrom

theorem checkApproval_eq_ok {validFrom : Int} {index : Nat} {s s' : Approvals}
    (h : checkApproval lib validFrom index s value = .ok s') :
    ∃ role approver, s' = ⟨s.roles ++ [role], s.identities ++ [approver]⟩ ∧
      ApprovedBy lib validFrom role approver value := by
  obtain ⟨head, hhead, h⟩ := bind_eq_ok.mp h
  obtain ⟨approvedAt, htime, h⟩ := bind_eq_ok.mp h
  obtain ⟨_, hbefore, h⟩ := bind_eq_ok.mp h
  obtain ⟨approval, hfields, hhead⟩ := bind_eq_ok.mp hhead
  obtain ⟨role, hrole, hhead⟩ := bind_eq_ok.mp hhead
  obtain ⟨_, hstatus, hhead⟩ := bind_eq_ok.mp hhead
  obtain ⟨approver, happrover, hhead⟩ := bind_eq_ok.mp hhead
  obtain ⟨_, -, hhead⟩ := bind_eq_ok.mp hhead
  cases h
  cases hhead
  refine ⟨role, approver, rfl, approval, _, approvedAt, exactFields_eq_ok hfields, ?_,
    isText_iff.mp (require_eq_ok.mp hstatus), (nonempty_eq_ok happrover).1, htime,
    require_eq_ok.mp hbefore⟩
  obtain ⟨known, -, hrole⟩ := bind_eq_ok.mp hrole
  split at hrole
  next heq =>
    split at hrole
    next => cases hrole
    next =>
      cases hrole
      exact heq
  next => cases hrole

/-- Every required role is approved in time, by an identity that is returned. -/
theorem checkApprovals_eq_ok {validFrom : Int} {identities : List String}
    (h : checkApprovals lib validFrom value = .ok identities) :
    ∃ rows, value = .arr rows ∧ ∀ role ∈ REQUIRED_APPROVAL_ROLES,
      ∃ row ∈ rows, ∃ approver ∈ identities, ApprovedBy lib validFrom role approver row := by
  cases value with
  | arr rows =>
    unfold checkApprovals at h
    dsimp only at h
    split_ifs at h
    obtain ⟨s, hloop, h⟩ := bind_eq_ok.mp h
    obtain ⟨_, hroles, h⟩ := bind_eq_ok.mp h
    cases h
    refine ⟨rows, rfl, ?_⟩
    have hinvariant : ∀ role ∈ s.roles, ∃ row ∈ rows, ∃ approver ∈ s.identities,
        ApprovedBy lib validFrom role approver row := by
      refine Lib.eachInOrder_induct (I := fun s => ∀ role ∈ s.roles, ∃ row ∈ rows,
        ∃ approver ∈ s.identities, ApprovedBy lib validFrom role approver row)
        (List.forall_mem_nil _) ?_ hloop
      intro i s row s' hrow hs hturn
      obtain ⟨role, approver, rfl, happroved⟩ := checkApproval_eq_ok hturn
      intro other hother
      rcases List.mem_append.mp hother with hother | hother
      · obtain ⟨row', hrow', approver', happrover', happroved'⟩ := hs other hother
        exact ⟨row', hrow', approver', List.mem_append_left _ happrover', happroved'⟩
      · obtain rfl := List.mem_singleton.mp hother
        exact ⟨row, hrow, approver, List.mem_append_right _ List.mem_cons_self, happroved⟩
    exact fun role hrole => hinvariant role (require_eq_ok.mp hroles role hrole)
  | null | bool | int | float | str | obj => cases h

theorem checkControls_eq_ok (h : checkControls value = .ok ()) :
    ∃ controls : Dict, value = .obj controls ∧
      (∀ name ∈ REQUIRED_TRUE_CONTROLS, controls.get name = .bool true) ∧
        ∀ entry ∈ REQUIRED_FALSE_CONTROL_FAILURE_BY_FIELD, controls.get entry.1 = .bool false := by
  obtain ⟨controls, hfields, h⟩ := bind_eq_ok.mp h
  obtain ⟨_, -, h⟩ := bind_eq_ok.mp h
  obtain ⟨_, htrue, h⟩ := bind_eq_ok.mp h
  exact ⟨controls, exactFields_eq_ok hfields, requiredTrue_eq_ok htrue, requiredFalse_eq_ok h⟩

/-- The records were frozen behind the window and before the validity. -/
theorem checkCustody_eq_ok (h : checkCustody lib interval value = .ok ()) :
    interval.windowEnd ≤ interval.validFrom := by
  obtain ⟨custody, -, h⟩ := bind_eq_ok.mp h
  obtain ⟨frozenAt, -, h⟩ := bind_eq_ok.mp h
  obtain ⟨_, hbehind, h⟩ := bind_eq_ok.mp h
  exact (require_eq_ok.mp hbehind).trans (require_eq_ok.mp h)

theorem checkSampling_eq_ok {manifest : ManifestControl} {counts : Counts}
    (h : checkSampling lib manifest interval value = .ok counts) :
    1 ≤ counts.sampleCount ∧ counts.sampleCount ≤ counts.fullIntakeCount ∧
      counts.sampleCount = manifest.casesRecordCount ∧
        counts.sampleCount = manifest.historicalCaseCount := by
  obtain ⟨sampling, -, h⟩ := bind_eq_ok.mp h
  obtain ⟨_, -, h⟩ := bind_eq_ok.mp h
  obtain ⟨holdoutStart, -, h⟩ := bind_eq_ok.mp h
  obtain ⟨holdoutEnd, -, h⟩ := bind_eq_ok.mp h
  obtain ⟨_, -, h⟩ := bind_eq_ok.mp h
  obtain ⟨fullIntakeCount, -, h⟩ := bind_eq_ok.mp h
  obtain ⟨sampleCount, hsample, h⟩ := bind_eq_ok.mp h
  obtain ⟨_, hle, h⟩ := bind_eq_ok.mp h
  obtain ⟨_, hmanifest, h⟩ := bind_eq_ok.mp h
  cases h
  exact ⟨le_of_integer hsample, require_eq_ok.mp hle, require_eq_ok.mp hmanifest⟩

/-- A threshold that is read: its category, and the value that it is read from. -/
def IsThreshold (rows : List Json) (entry : String × Decimal) : Prop :=
  entry.1 ∈ ALLOWED_QUALIFICATION_THRESHOLD_CATEGORIES ∧
    ∃ row label, .obj row ∈ rows ∧ rate (Dict.get row "max_rate") label = .ok entry.2

theorem categoryRates_eq_ok {rates : List (String × Decimal)} (h : categoryRates value = .ok rates) :
    ∃ rows, value = .arr rows ∧ (rates.map Prod.fst).Nodup ∧ ∀ entry ∈ rates,
      IsThreshold rows entry := by
  unfold categoryRates at h
  split at h
  next rawRow rest =>
    refine ⟨rawRow :: rest, rfl, ?_⟩
    refine Lib.eachInOrder_induct (I := fun rates => (rates.map Prod.fst).Nodup ∧
      ∀ entry ∈ rates, IsThreshold (rawRow :: rest) entry) ⟨List.nodup_nil, List.forall_mem_nil _⟩
      ?_ h
    rintro i rates row rates' hrow ⟨hnodup, hrates⟩ hturn
    obtain ⟨members, hfields, hturn⟩ := bind_eq_ok.mp hturn
    obtain ⟨category, -, hturn⟩ := bind_eq_ok.mp hturn
    obtain ⟨_, hallowed, hturn⟩ := bind_eq_ok.mp hturn
    obtain ⟨_, hnew, hturn⟩ := bind_eq_ok.mp hturn
    obtain ⟨maxRate, hrate, hturn⟩ := bind_eq_ok.mp hturn
    cases hturn
    constructor
    · rw [List.map_append, List.map_singleton]
      exact nodup_snoc hnodup (require_eq_ok.mp hnew)
    · intro entry hentry
      rcases List.mem_append.mp hentry with hentry | hentry
      · exact hrates entry hentry
      · obtain rfl := List.mem_singleton.mp hentry
        exact ⟨require_eq_ok.mp hallowed, members, _, exactFields_eq_ok hfields ▸ hrow,
          rate_of_rateOf hrate⟩
  next => cases h

theorem checkStopConditions_eq_ok {thresholds : Thresholds}
    (h : checkStopConditions value = .ok thresholds) :
    ∃ (stop : Dict) (rows : List Json) (label : String), value = .obj stop ∧ stop.get "max_category_quarantine_rates" = .arr rows ∧
      rate (stop.get "max_overall_quarantine_rate") label = .ok thresholds.overall ∧
        (thresholds.categories.map Prod.fst).Nodup ∧
          ∀ entry ∈ thresholds.categories, IsThreshold rows entry := by
  obtain ⟨stop, hfields, h⟩ := bind_eq_ok.mp h
  obtain ⟨maxOverall, hoverall, h⟩ := bind_eq_ok.mp h
  obtain ⟨_, -, h⟩ := bind_eq_ok.mp h
  obtain ⟨_, -, h⟩ := bind_eq_ok.mp h
  obtain ⟨rates, hrates, h⟩ := bind_eq_ok.mp h
  cases h
  obtain ⟨rows, hrows, hnodup, hall⟩ := categoryRates_eq_ok hrates
  exact ⟨stop, rows, _, exactFields_eq_ok hfields, hrows, rate_of_rateOf hoverall, hnodup, hall⟩

/-- The review is an approval by an identity that approved nothing. -/
theorem checkIndependentReview_eq_ok {identities : List String}
    (h : checkIndependentReview lib interval identities value = .ok ()) :
    ∃ (review : Dict) (reviewer : String), value = .obj review ∧ review.get "status" = .str "APPROVED" ∧
      review.get "reviewer_id" = .str reviewer ∧ reviewer ∉ identities := by
  obtain ⟨review, hhead, -⟩ := bind_eq_ok.mp h
  obtain ⟨fields, hfields, hhead⟩ := bind_eq_ok.mp hhead
  obtain ⟨_, hstatus, hhead⟩ := bind_eq_ok.mp hhead
  obtain ⟨reviewer, hreviewer, hhead⟩ := bind_eq_ok.mp hhead
  obtain ⟨_, hindependent, hhead⟩ := bind_eq_ok.mp hhead
  obtain ⟨_, -, hhead⟩ := bind_eq_ok.mp hhead
  cases hhead
  exact ⟨review, reviewer, exactFields_eq_ok hfields, isText_iff.mp (require_eq_ok.mp hstatus),
    (nonempty_eq_ok hreviewer).1, require_eq_ok.mp hindependent⟩

/-- The artifact is the file at its path, and its digest is that of the file. -/
def IsBound (env : Environment) (fs : FileSystem) (artifact : ArtifactBinding) : Prop :=
  fs.opened artifact.path = .regular artifact.content ∧
    artifact.content.length ≤ MAX_GATE_B_ARTIFACT_BYTES ∧
      artifact.sha256 = env.sha256 artifact.content

theorem bindArtifact_eq_ok {index : Nat} {artifacts artifacts' : List ArtifactBinding}
    (h : bindArtifact env fs request index artifacts value = .ok artifacts') :
    ∃ artifact, artifacts' = artifacts ++ [artifact] ∧ IsBound env fs artifact ∧
      artifact.role ∈ REQUIRED_ARTIFACT_ROLES ∧
        artifact.role ∉ artifacts.map ArtifactBinding.role := by
  obtain ⟨head, hhead, h⟩ := bind_eq_ok.mp h
  obtain ⟨root, -, h⟩ := bind_eq_ok.mp h
  obtain ⟨resolved, -, h⟩ := bind_eq_ok.mp h
  obtain ⟨file, hfile, h⟩ := bind_eq_ok.mp h
  obtain ⟨_, hdigest, h⟩ := bind_eq_ok.mp h
  cases h
  obtain ⟨hopened, hlength, hsha⟩ := safeFileBytesAndDigest_eq_ok hfile
  exact ⟨_, rfl, ⟨hopened, hlength, (require_eq_ok.mp hdigest).symm.trans hsha⟩,
    artifactHead_eq_ok hhead⟩

/-- Every required artifact is bound once. -/
theorem bindArtifacts_eq_ok {artifacts : List ArtifactBinding}
    (h : bindArtifacts env fs request value = .ok artifacts) :
    (∀ artifact ∈ artifacts, IsBound env fs artifact) ∧
      (sortBy ArtifactBinding.role artifacts).map ArtifactBinding.role =
        REQUIRED_ARTIFACT_ROLES := by
  cases value with
  | arr rows =>
    unfold bindArtifacts at h
    dsimp only at h
    split_ifs at h
    obtain ⟨artifacts', hloop, h⟩ := bind_eq_ok.mp h
    obtain ⟨_, hroles, h⟩ := bind_eq_ok.mp h
    cases h
    have hinvariant : (∀ artifact ∈ artifacts, IsBound env fs artifact ∧
        artifact.role ∈ REQUIRED_ARTIFACT_ROLES) ∧ (artifacts.map ArtifactBinding.role).Nodup := by
      refine Lib.eachInOrder_induct (I := fun artifacts => (∀ artifact ∈ artifacts,
        IsBound env fs artifact ∧ artifact.role ∈ REQUIRED_ARTIFACT_ROLES) ∧
          (artifacts.map ArtifactBinding.role).Nodup)
        ⟨List.forall_mem_nil _, List.nodup_nil⟩ ?_ hloop
      rintro i artifacts row artifacts' hrow ⟨hall, hnodup⟩ hturn
      obtain ⟨artifact, rfl, hbound, hrole, hnew⟩ := bindArtifact_eq_ok hturn
      constructor
      · intro other hother
        rcases List.mem_append.mp hother with hother | hother
        · exact hall other hother
        · obtain rfl := List.mem_singleton.mp hother
          exact ⟨hbound, hrole⟩
      · rw [List.map_append, List.map_singleton]
        exact nodup_snoc hnodup hnew
    obtain ⟨hall, hnodup⟩ := hinvariant
    refine ⟨fun artifact hartifact => (hall artifact hartifact).1, ?_⟩
    -- two sorted lists of the same roles
    have hperm : ((sortBy ArtifactBinding.role artifacts).map ArtifactBinding.role).Perm
        REQUIRED_ARTIFACT_ROLES := by
      refine ((Lib.sortBy_perm artifacts).map _).trans ?_
      refine (List.perm_ext_iff_of_nodup hnodup (by decide)).mpr fun role => ⟨fun hrole => ?_, ?_⟩
      · obtain ⟨artifact, hartifact, rfl⟩ := List.mem_map.mp hrole
        exact (hall artifact hartifact).2
      · exact require_eq_ok.mp hroles role
    refine hperm.eq_of_pairwise (fun a b _ _ hab hba => le_antisymm hab hba) ?_ ?_
    · exact List.pairwise_map.mpr (Lib.pairwise_sortBy artifacts)
    · decide
  | null | bool | int | float | str | obj => cases h

theorem boundFiles_eq_ok {files : BoundFiles} (h : boundFiles env fs request value = .ok files) :
    ∃ bindings : Dict, value = .obj bindings ∧
      fs.opened request.modelPath = .regular files.modelBytes ∧
        bindings.get "model_sha256" = .str (env.sha256 files.modelBytes) ∧
      fs.opened request.policyPath = .regular files.policyBytes ∧
        bindings.get "policy_sha256" = .str (env.sha256 files.policyBytes) := by
  obtain ⟨bindings, hfields, h⟩ := bind_eq_ok.mp h
  obtain ⟨_, -, h⟩ := bind_eq_ok.mp h
  obtain ⟨_, -, h⟩ := bind_eq_ok.mp h
  obtain ⟨modelDigest, hmodelDigest, h⟩ := bind_eq_ok.mp h
  obtain ⟨policyDigest, hpolicyDigest, h⟩ := bind_eq_ok.mp h
  obtain ⟨model, hmodel, h⟩ := bind_eq_ok.mp h
  obtain ⟨policy, hpolicy, h⟩ := bind_eq_ok.mp h
  obtain ⟨_, hmodelEq, h⟩ := bind_eq_ok.mp h
  obtain ⟨_, hpolicyEq, h⟩ := bind_eq_ok.mp h
  cases h
  obtain ⟨hmodelOpened, -, hmodelSha⟩ := safeFileBytesAndDigest_eq_ok hmodel
  obtain ⟨hpolicyOpened, -, hpolicySha⟩ := safeFileBytesAndDigest_eq_ok hpolicy
  refine ⟨bindings, exactFields_eq_ok hfields, hmodelOpened, ?_, hpolicyOpened, ?_⟩
  · rw [(sha256Text_eq_ok hmodelDigest).1, ← require_eq_ok.mp hmodelEq, hmodelSha]
  · rw [(sha256Text_eq_ok hpolicyDigest).1, ← require_eq_ok.mp hpolicyEq, hpolicySha]

/-- The text of a member. -/
def textAt (name : String) (row : Json) : Option String :=
  match row with
  | .obj fields => match Dict.get fields name with
    | .str s => some s
    | _ => none
  | _ => none

theorem textAt_obj {name s : String} (h : fields.get name = .str s) :
    textAt name (.obj fields) = some s := by
  rw [textAt, h]

/-- The entries that have been read, each with a role and a path of its own. -/
structure EntriesRead (dataOrigin : String) (rows : List Json) (s : Entries) : Prop where
  roles : rows.map (textAt "role") = s.roles.map some
  paths : rows.map (textAt "path") = s.paths.map some
  roles_nodup : s.roles.Nodup
  paths_nodup : s.paths.Nodup
  known : ∀ role ∈ s.roles, role ∈ ["adjudications", "cases"]
  digests : ∀ row ∈ rows, ∃ digest, textAt "sha256" row = some digest ∧ IsSha256 digest ∧
    (dataOrigin = "HISTORICAL_DEIDENTIFIED" → digest ≠ PLACEHOLDER_DIGEST)
  cases : ∀ n, s.casesRecordCount = some n →
    "cases" ∈ s.roles ∧ 0 ≤ n ∧ n ≤ MAX_RECORDS_PER_FILE

/-- One entry more. -/
theorem EntriesRead.snoc {dataOrigin : String} {rows : List Json} {index : Nat} {s s' : Entries}
    (hs : EntriesRead dataOrigin rows s)
    (h : manifestFile lib dataOrigin index s value = .ok s') :
    EntriesRead dataOrigin (rows ++ [value]) s' := by
  obtain ⟨entry, hentry, h⟩ := bind_eq_ok.mp h
  obtain ⟨role, hrole, h⟩ := bind_eq_ok.mp h
  obtain ⟨_, hknown, h⟩ := bind_eq_ok.mp h
  obtain ⟨declaredPath, hpath, h⟩ := bind_eq_ok.mp h
  obtain ⟨_, hdistinct, h⟩ := bind_eq_ok.mp h
  obtain ⟨digest, hdigest, h⟩ := bind_eq_ok.mp h
  obtain ⟨recordCount, hcount, h⟩ := bind_eq_ok.mp h
  obtain ⟨_, hbound, h⟩ := bind_eq_ok.mp h
  obtain ⟨_, -, h⟩ := bind_eq_ok.mp h
  cases h
  obtain rfl := exactFields_eq_ok hentry
  obtain ⟨hallowed, hnew⟩ := require_eq_ok.mp hknown
  obtain ⟨candidate, hcandidate, hpath⟩ := bind_eq_ok.mp hpath
  obtain ⟨_, -, hpath⟩ := bind_eq_ok.mp hpath
  cases hpath
  have hsha := sha256Text_eq_ok hdigest
  constructor
  case roles => rw [List.map_append, List.map_append, hs.roles, List.map_singleton,
    List.map_singleton, textAt_obj (identifier_eq_ok hrole).1]
  case paths => rw [List.map_append, List.map_append, hs.paths, List.map_singleton,
    List.map_singleton, textAt_obj (nonempty_eq_ok hcandidate).1]
  case roles_nodup => exact nodup_snoc hs.roles_nodup hnew
  case paths_nodup => exact nodup_snoc hs.paths_nodup (require_eq_ok.mp hdistinct)
  case known =>
    intro other hother
    rcases List.mem_append.mp hother with hother | hother
    · exact hs.known other hother
    · exact List.mem_singleton.mp hother ▸ hallowed
  case digests =>
    intro row hrow
    rcases List.mem_append.mp hrow with hrow | hrow
    · exact hs.digests row hrow
    · obtain rfl := List.mem_singleton.mp hrow
      refine ⟨digest, textAt_obj hsha.1, hsha.2, fun horigin hplaceholder => ?_⟩
      -- historical data may not use the placeholder
      rw [hsha.1, sha256Text, if_neg (not_not.mpr hsha.2),
        if_pos ⟨decide_eq_false (not_not.mpr horigin), hplaceholder⟩] at hdigest
      cases hdigest
  case cases =>
    intro n hn
    dsimp only at hn
    split at hn
    next hcases =>
      cases hn
      exact ⟨List.mem_append_right _ (hcases ▸ List.mem_cons_self), le_of_integer hcount,
        require_eq_ok.mp hbound⟩
    next =>
      obtain ⟨hmem, hrange⟩ := hs.cases n hn
      exact ⟨List.mem_append_left _ hmem, hrange⟩

theorem allowedText_eq_ok {allowed : List String} {message text : String}
    (h : allowedText value allowed message = .ok text) : value = .str text ∧ text ∈ allowed := by
  obtain ⟨known, hknown, h⟩ := bind_eq_ok.mp h
  split at h
  next s =>
    cases h
    exact ⟨rfl, of_decide_eq_true (Except.ok.inj hknown)⟩
  next => cases h

theorem manifestCounts_eq_ok {dataOrigin intendedMode : String} {count n : Int} {entries : Entries}
    (h : manifestCounts dataOrigin intendedMode count entries = .ok n) :
    entries.casesRecordCount = some n ∧ (dataOrigin = "HISTORICAL_DEIDENTIFIED" →
      intendedMode = "HISTORICAL_REPLAY" ∧ "adjudications" ∈ entries.roles ∧ count = n) := by
  unfold manifestCounts at h
  cases hcases : entries.casesRecordCount with
  | none =>
    rw [hcases] at h
    cases h
  | some cases =>
    rw [hcases] at h
    dsimp only at h
    split_ifs at h with horigin hmode hroles hcount
    · cases h
      exact ⟨rfl, fun heq => absurd heq horigin⟩
    · cases h
      exact ⟨rfl, fun _ => ⟨not_not.mp hmode, hroles, not_not.mp hcount⟩⟩

end Parts

/-! ## §3 The approved package -/

/-- What a loaded manifest promises of its document. -/
structure Declared (env : Environment) (fs : FileSystem) (manifest : ManifestControl)
    (value : Dict) : Prop where
  source : fs.opened manifest.path = .regular manifest.sourceBytes ∧
    manifest.sourceSha256 = env.sha256 manifest.sourceBytes ∧
      parseControlDocument env manifest.sourceBytes = .ok (.obj value)
  identity : value.get "dataset_id" = .str manifest.datasetId ∧ IsIdentifier manifest.datasetId
  origin : value.get "data_origin" = .str manifest.dataOrigin ∧
    manifest.dataOrigin ∈ ALLOWED_DATA_ORIGINS
  mode : value.get "intended_mode" = .str manifest.intendedMode ∧
    manifest.intendedMode ∈ ALLOWED_REPLAY_MODES
  /-- the files have roles and paths of their own, and the cases are among them -/
  files : ∃ (rows : List Json) (entries : Entries), value.get "files" = .arr rows ∧
    EntriesRead manifest.dataOrigin rows entries ∧
      entries.casesRecordCount = some manifest.casesRecordCount ∧
        (manifest.dataOrigin = "HISTORICAL_DEIDENTIFIED" → "adjudications" ∈ entries.roles)
  counts : 0 ≤ manifest.historicalCaseCount ∧ 0 ≤ manifest.casesRecordCount ∧
    manifest.casesRecordCount ≤ MAX_RECORDS_PER_FILE
  historical : manifest.dataOrigin = "HISTORICAL_DEIDENTIFIED" →
    manifest.intendedMode = "HISTORICAL_REPLAY" ∧
      manifest.historicalCaseCount = manifest.casesRecordCount

/-- What a loaded authorization promises of the document, of the files it is bound to and of the
manifest. -/
structure Approved (env : Environment) (fs : FileSystem) (request : Request)
    (a : GateBAuthorization) (value : Dict) : Prop where
  source : fs.opened a.path = .regular a.sourceBytes ∧
    a.sourceSha256 = env.sha256 a.sourceBytes ∧
      parseControlDocument env a.sourceBytes = .ok (.obj value)
  manifest : request.manifest.dataOrigin = "HISTORICAL_DEIDENTIFIED" ∧
    a.datasetId = request.manifest.datasetId ∧
      a.datasetManifestSha256 = request.manifest.sourceSha256
  config : request.config.executionMode = "HISTORICAL_REPLAY" ∧
    request.config.recordFailurePolicy = "QUARANTINE_RECORD"
  /-- the window is closed before the validity begins, and the clock is within the validity -/
  order : a.windowStart < a.windowEnd ∧ a.windowEnd ≤ a.validFrom ∧
    ∃ current, request.now = some current ∧ a.validFrom ≤ current ∧ current < a.expiresAt
  /-- every role is approved in time, and the reviewer is none of those who approved it -/
  approvals : ∃ (rows : List Json) (review : Dict) (reviewer : String),
    value.get "approvals" = .arr rows ∧ value.get "independent_review" = .obj review ∧
      review.get "status" = .str "APPROVED" ∧ review.get "reviewer_id" = .str reviewer ∧
        ∀ role ∈ REQUIRED_APPROVAL_ROLES, ∃ row ∈ rows, ∃ approver, approver ≠ reviewer ∧
          ApprovedBy env.lib a.validFrom role approver row
  controls : ∃ controls : Dict, value.get "controls" = .obj controls ∧
    (∀ name ∈ REQUIRED_TRUE_CONTROLS, controls.get name = .bool true) ∧
      ∀ entry ∈ REQUIRED_FALSE_CONTROL_FAILURE_BY_FIELD, controls.get entry.1 = .bool false
  files : ∃ bindings : Dict, value.get "artifact_bindings" = .obj bindings ∧
    fs.opened request.modelPath = .regular a.modelBytes ∧
      bindings.get "model_sha256" = .str (env.sha256 a.modelBytes) ∧
    fs.opened request.policyPath = .regular a.policyBytes ∧
      bindings.get "policy_sha256" = .str (env.sha256 a.policyBytes)
  artifacts : (∀ artifact ∈ a.artifacts, IsBound env fs artifact) ∧
    a.artifacts.map ArtifactBinding.role = REQUIRED_ARTIFACT_ROLES
  counts : 1 ≤ a.sampleCount ∧ a.sampleCount ≤ a.fullIntakeCount ∧
    a.sampleCount = request.manifest.casesRecordCount ∧
      a.sampleCount = request.manifest.historicalCaseCount
  /-- the thresholds are those of the document, at most one for a category -/
  thresholds : ∃ (stop : Dict) (rows : List Json) (label : String),
    value.get "stop_conditions" = .obj stop ∧
      stop.get "max_category_quarantine_rates" = .arr rows ∧
        rate (stop.get "max_overall_quarantine_rate") label = .ok a.maxOverallQuarantineRate ∧
          (a.maxCategoryQuarantineRates.map Prod.fst).Nodup ∧
            ∀ entry ∈ a.maxCategoryQuarantineRates, IsThreshold rows entry
  rates : (0 ≤ a.maxOverallQuarantineRate.value ∧ a.maxOverallQuarantineRate.value ≤ 1) ∧
    ∀ entry ∈ a.maxCategoryQuarantineRates, 0 ≤ entry.2.value ∧ entry.2.value ≤ 1

section Package

variable {env : Environment} {fs : FileSystem} {request : Request} {a : GateBAuthorization}
variable {path : String} {manifest : ManifestControl}

/-- Whatever is loaded as a manifest is declared. -/
theorem declared_of_load (h : loadManifestControl env fs path = .ok manifest) :
    ∃ value, Declared env fs manifest value := by
  obtain ⟨target, -, h⟩ := bind_eq_ok.mp h
  obtain ⟨document, hdocument, h⟩ := bind_eq_ok.mp h
  obtain ⟨datasetId, hhead, h⟩ := bind_eq_ok.mp h
  obtain ⟨dataOrigin, horigin, h⟩ := bind_eq_ok.mp h
  obtain ⟨count, hcount, h⟩ := bind_eq_ok.mp h
  obtain ⟨mode, hmode, h⟩ := bind_eq_ok.mp h
  obtain ⟨_, -, h⟩ := bind_eq_ok.mp h
  obtain ⟨entries, hentries, h⟩ := bind_eq_ok.mp h
  obtain ⟨casesRecordCount, hcounts, h⟩ := bind_eq_ok.mp h
  cases h
  obtain ⟨_, -, hhead⟩ := bind_eq_ok.mp hhead
  obtain ⟨_, -, hhead⟩ := bind_eq_ok.mp hhead
  obtain ⟨hcases, hhistorical⟩ := manifestCounts_eq_ok hcounts
  have hread : ∃ rows, document.value.get "files" = .arr rows ∧
      EntriesRead dataOrigin rows entries := by
    unfold manifestFiles at hentries
    split at hentries
    next rawEntry rest heq =>
      refine ⟨_, heq, ?_⟩
      have hstart : EntriesRead dataOrigin [] ⟨[], [], none⟩ :=
        ⟨rfl, rfl, List.nodup_nil, List.nodup_nil, List.forall_mem_nil _, List.forall_mem_nil _,
          fun n hn => by cases hn⟩
      exact Lib.eachInOrder_trace hstart (fun _ _ _ _ _ hs hturn => hs.snoc hturn) hentries
    next => cases hentries
  obtain ⟨rows, hrows, hread⟩ := hread
  refine ⟨document.value, ?_⟩
  constructor
  case source => exact loadBoundedJsonObject_eq_ok hdocument
  case identity => exact identifier_eq_ok hhead
  case origin => exact allowedText_eq_ok horigin
  case mode => exact allowedText_eq_ok hmode
  case files => exact ⟨rows, entries, hrows, hread, hcases, fun heq => (hhistorical heq).2.1⟩
  case counts => exact ⟨le_of_integer hcount, (hread.cases _ hcases).2⟩
  case historical => exact fun heq => ⟨(hhistorical heq).1, (hhistorical heq).2.2⟩

/-- Whatever is loaded is approved. -/
theorem approved_of_load (h : loadGateBAuthorization env fs request = .ok a) :
    ∃ value, Approved env fs request a value := by
  obtain ⟨target, -, h⟩ := bind_eq_ok.mp h
  obtain ⟨document, hdocument, h⟩ := bind_eq_ok.mp h
  obtain ⟨head, hhead, h⟩ := bind_eq_ok.mp h
  obtain ⟨interval, hinterval, h⟩ := bind_eq_ok.mp h
  obtain ⟨identities, happrovals, h⟩ := bind_eq_ok.mp h
  obtain ⟨files, hfiles, h⟩ := bind_eq_ok.mp h
  obtain ⟨artifacts, hartifacts, h⟩ := bind_eq_ok.mp h
  obtain ⟨_, hcontrols, h⟩ := bind_eq_ok.mp h
  obtain ⟨_, hcustody, h⟩ := bind_eq_ok.mp h
  obtain ⟨counts, hsampling, h⟩ := bind_eq_ok.mp h
  obtain ⟨thresholds, hstop, h⟩ := bind_eq_ok.mp h
  obtain ⟨_, -, h⟩ := bind_eq_ok.mp h
  obtain ⟨_, hreview, h⟩ := bind_eq_ok.mp h
  obtain ⟨_, -, h⟩ := bind_eq_ok.mp h
  cases h
  obtain ⟨horigin, hmode, hpolicy, hdataset, hdigest⟩ := authorizationHead_eq_ok hhead
  obtain ⟨hwindow, hcurrent⟩ := authorizationInterval_eq_ok hinterval
  obtain ⟨rows, hrows, hroles⟩ := checkApprovals_eq_ok happrovals
  obtain ⟨review, reviewer, hreviewed, hstatus, hreviewer, hindependent⟩ :=
    checkIndependentReview_eq_ok hreview
  obtain ⟨hbound, hartifactRoles⟩ := bindArtifacts_eq_ok hartifacts
  obtain ⟨stop, thresholdRows, label, hstopFields, hstopRows, hoverall, hnodup, hthresholds⟩ :=
    checkStopConditions_eq_ok hstop
  refine ⟨document.value, ?_⟩
  constructor
  case source => exact loadBoundedJsonObject_eq_ok hdocument
  case manifest => exact ⟨horigin, hdataset, hdigest⟩
  case config => exact ⟨hmode, hpolicy⟩
  case order => exact ⟨hwindow, checkCustody_eq_ok hcustody, hcurrent⟩
  case approvals =>
    refine ⟨rows, review, reviewer, hrows, hreviewed, hstatus, hreviewer, fun role hrole => ?_⟩
    obtain ⟨row, hrow, approver, happrover, happroved⟩ := hroles role hrole
    exact ⟨row, hrow, approver, fun heq => hindependent (heq ▸ happrover), happroved⟩
  case controls => exact checkControls_eq_ok hcontrols
  case files => exact boundFiles_eq_ok hfiles
  case artifacts =>
    refine ⟨fun artifact hartifact => ?_, hartifactRoles⟩
    exact hbound artifact ((Lib.sortBy_perm artifacts).mem_iff.mp hartifact)
  case counts => exact checkSampling_eq_ok hsampling
  case thresholds =>
    have hperm := @Lib.sortBy_perm _ _ _ Prod.fst thresholds.categories
    exact ⟨stop, thresholdRows, label, hstopFields, hstopRows, hoverall,
      (hperm.map Prod.fst).nodup_iff.mpr hnodup,
      fun entry hentry => hthresholds entry (hperm.mem_iff.mp hentry)⟩
  case rates =>
    refine ⟨unit_of_rate hoverall, fun entry hentry => ?_⟩
    have hmem := (@Lib.sortBy_perm _ _ _ Prod.fst thresholds.categories).mem_iff.mp hentry
    obtain ⟨-, row, rowLabel, -, hrate⟩ := hthresholds entry hmem
    exact unit_of_rate hrate

end Package

/-! ## §4 The pilot -/

/-- `instant.isoformat().replace("+00:00", "Z")`. -/
def isoformatZulu (instant : Int) : String :=
  match Lib.Calendar.isoformat instant with
  | some s => String.ofList (s.toList.take (s.toList.length - 6) ++ ['Z'])
  | none => ""

/-- What the evaluation of the stop conditions reads of an authorization. -/
def GateBAuthorization.evaluated (a : GateBAuthorization) : Authorization where
  authorizationId := a.authorizationId
  expiresAt := isoformatZulu a.expiresAt
  fullIntakeCount := a.fullIntakeCount.toNat
  sampleCount := a.sampleCount.toNat
  maxOverallQuarantineRate := a.maxOverallQuarantineRate
  maxCategoryQuarantineRates := a.maxCategoryQuarantineRates

/-- A record that the window refuses. -/
def outsideWindow : Exception :=
  failure "An accepted case falls outside the approved Gate B time window."

/-- `validate_accepted_case_window(authorization, records)`. -/
def validateAcceptedCaseWindow (lib : Library) (a : GateBAuthorization) : List Dict → Guarded Unit
  | [] => .ok ()
  | record :: records => do
    let openedAt ← timestamp lib (record.get "opened_at") "accepted case.opened_at"
    require (a.windowStart ≤ openedAt ∧ openedAt < a.windowEnd) outsideWindow
    validateAcceptedCaseWindow lib a records

/-- The record was opened within the window. -/
def InWindow (lib : Library) (a : GateBAuthorization) (record : Dict) : Prop :=
  ∃ openedAt, timestamp lib (record.get "opened_at") "accepted case.opened_at" = .ok openedAt ∧
    a.windowStart ≤ openedAt ∧ openedAt < a.windowEnd

/-- The text of a float has at most seventeen digits that count. -/
def isShortRepr (repr : String) : Bool :=
  match Decimal.ofText repr with
  | some d => decide (d.coefficient.natAbs < 10 ^ 17)
  | none => true

section Pilot

variable {env : Environment} {fs : FileSystem} {path : String} {request : Request}
variable {a : GateBAuthorization} {rows records : List Dict} {outcomes : List Outcome}

theorem validateAcceptedCaseWindow_iff {lib : Library} :
    validateAcceptedCaseWindow lib a records = .ok () ↔ ∀ record ∈ records, InWindow lib a record := by
  induction records with
  | nil => exact iff_of_true rfl (List.forall_mem_nil _)
  | cons record records ih =>
    rw [List.forall_mem_cons, ← ih]
    constructor
    · intro h
      obtain ⟨openedAt, htime, h⟩ := bind_eq_ok.mp h
      obtain ⟨_, hwithin, h⟩ := bind_eq_ok.mp h
      exact ⟨⟨openedAt, htime, require_eq_ok.mp hwithin⟩, h⟩
    · rintro ⟨⟨openedAt, htime, hwithin⟩, h⟩
      exact bind_eq_ok.mpr ⟨openedAt, htime, bind_eq_ok.mpr ⟨(), require_eq_ok.mpr hwithin, h⟩⟩

theorem isNumber_of_rate {value : Json} {label : String} {d : Decimal}
    (h : rate value label = .ok d) (hshort : value.allFloats isShortRepr = true) :
    IsNumber value := by
  cases value with
  | int n => trivial
  | float repr =>
    intro d hd
    have hrepr : isShortRepr repr = true := hshort
    rw [isShortRepr, hd] at hrepr
    exact of_decide_eq_true hrepr
  | null | bool | str | arr | obj => cases h

/-- The thresholds of an approved package are read from short numbers. -/
theorem Approved.loaded {value : Dict} (h : Approved env fs request a value)
    (hshort : (Json.obj value).allFloats isShortRepr = true) : a.evaluated.Loaded := by
  obtain ⟨stop, rows, label, hstop, hrows, hoverall, -, hthresholds⟩ := h.thresholds
  have hstopShort : (Json.obj stop).allFloats isShortRepr = true := hstop ▸ Json.allFloats_get hshort
  have hrowsShort : (Json.arr rows).allFloats isShortRepr = true :=
    hrows ▸ Json.allFloats_get hstopShort
  constructor
  case sample =>
    show 0 < a.sampleCount.toNat
    have hpos := h.counts.1
    omega
  case overall =>
    exact ⟨_, label, isNumber_of_rate hoverall (Json.allFloats_get hstopShort), hoverall⟩
  case categories =>
    intro entry hentry
    obtain ⟨hallowed, row, rowLabel, hrow, hrate⟩ := hthresholds entry hentry
    exact ⟨hallowed, _, rowLabel,
      isNumber_of_rate hrate (Json.allFloats_get (Json.allFloats_mem hrowsShort hrow)), hrate⟩

/-- A pilot under a loaded manifest and a loaded authorization passes the gates exactly where its
rows are as many as the manifest says, no ratio of quarantined rows is above its threshold, and
every accepted case was opened within the window; that is before the clock of the loading. -/
theorem admits_iff (hshort : ∀ text value, env.loads text = .ok value →
      value.allFloats isShortRepr = true)
    (hmanifest : loadManifestControl env fs path = .ok request.manifest)
    (hload : loadGateBAuthorization env fs request = .ok a)
    (hrows : List.Forall₂ IsQualificationRow rows outcomes) :
    ((∃ report, evaluateQualificationStopConditions a.evaluated rows = .ok report) ∧
        validateAcceptedCaseWindow env.lib a records = .ok () ↔
      (rows.length : Int) = request.manifest.casesRecordCount ∧ ¬ Stops a.evaluated outcomes ∧
        ∀ record ∈ records, InWindow env.lib a record) ∧
    ∀ record, InWindow env.lib a record → ∃ openedAt current, request.now = some current ∧
      timestamp env.lib (record.get "opened_at") "accepted case.opened_at" = .ok openedAt ∧
        openedAt < current := by
  obtain ⟨value, happroved⟩ := approved_of_load hload
  obtain ⟨hpos, -, hcases, -⟩ := happroved.counts
  obtain ⟨-, hfrozen, current, hnow, hfrom, -⟩ := happroved.order
  have hvalue : (Json.obj value).allFloats isShortRepr = true := by
    have hparse := happroved.source.2.2
    unfold parseControlDocument at hparse
    split at hparse
    · cases hparse
    · split at hparse
      · cases hparse
      · exact hshort _ _ hparse
  have hloaded := happroved.loaded hvalue
  obtain ⟨_, hdeclared⟩ := declared_of_load hmanifest
  have hbound := hdeclared.counts.2.2
  have hcast : ((a.evaluated.sampleCount : Nat) : Int) = request.manifest.casesRecordCount := by
    show ((a.sampleCount.toNat : Nat) : Int) = request.manifest.casesRecordCount
    omega
  refine ⟨?_, ?_⟩
  · rw [validateAcceptedCaseWindow_iff, ← and_assoc]
    refine and_congr_left fun _ => ?_
    by_cases hcount : rows.length = a.evaluated.sampleCount
    · have hlength : rows.length ≤ 100000 := by
        have hmax : (MAX_RECORDS_PER_FILE : Int) = 100000 := rfl
        omega
      have hexact := evaluate_eq_error hloaded hrows hlength hcount
      rw [← hexact, and_iff_right (by rw [hcount, hcast])]
      cases evaluateQualificationStopConditions a.evaluated rows with
      | error stop =>
        exact iff_of_false (fun ⟨report, h⟩ => by cases h) fun h => h ⟨stop, rfl⟩
      | ok report => exact iff_of_true ⟨report, rfl⟩ fun ⟨stop, h⟩ => by cases h
    · have hrefused : evaluateQualificationStopConditions a.evaluated rows =
          .error .countMismatch := if_pos hcount
      rw [hrefused]
      refine iff_of_false (fun ⟨report, h⟩ => by cases h) fun h => hcount ?_
      have hlength := h.1.trans hcast.symm
      omega
  · rintro record ⟨openedAt, htime, -, hbefore⟩
    exact ⟨openedAt, current, hnow, htime, hbefore.trans_le (hfrozen.trans hfrom)⟩

end Pilot

/-! ## §5 A package that is approved -/

def sampleDigest : String := "aaaaaaaaaaaaaaaaaaaaaaaaaaaaaaaaaaaaaaaaaaaaaaaaaaaaaaaaaaaaaaaa"

def sampleFile (role path : String) : Json :=
  .obj [("role", .str role), ("path", .str path), ("sha256", .str sampleDigest),
    ("record_count", .int 1), ("adapter", .str "canonical_jsonl_v0.2")]

def sampleManifest : Dict :=
  [("schema_version", .str "0.2.0"), ("dataset_id", .str "dataset"),
    ("data_origin", .str "HISTORICAL_DEIDENTIFIED"), ("historical_case_count", .int 1),
    ("intended_mode", .str "HISTORICAL_REPLAY"), ("created_at", .str "2026-01-01T00:00:00Z"),
    ("attestations", .obj []),
    ("files", .arr [sampleFile "cases" "cases.jsonl", sampleFile "adjudications" "labels.jsonl"])]

def sampleApproval (role : String) : Json :=
  .obj [("role", .str role), ("status", .str "APPROVED"), ("approver_id", .str "owner"),
    ("approval_reference", .str "ticket"), ("approved_at", .str "2026-01-03T00:00:00Z")]

def sampleArtifact (role path : String) : Json :=
  .obj [("role", .str role), ("path", .str path), ("sha256", .str sampleDigest)]

def sampleControls : Json :=
  .obj [("deidentification_assessment_reference", .str "ticket"),
    ("direct_identifiers_removed", .bool true), ("reidentification_risk_reviewed", .bool true),
    ("offline_only", .bool true), ("live_feed_connected", .bool false),
    ("action_credentials_present", .bool false),
    ("write_capable_connectors_present", .bool false), ("network_egress_disabled", .bool true),
    ("runtime_labels_separated", .bool true), ("complete_intake_reporting", .bool true),
    ("restricted_hash_handling", .bool true), ("retention_deletion_reference", .str "ticket"),
    ("incident_response_reference", .str "ticket"), ("isolation_reference", .str "ticket"),
    ("kill_switch_reference", .str "ticket")]

def sampleAuthorization : Dict :=
  [("schema_version", .str "0.2.0"), ("authorization_id", .str "authorization"),
    ("status", .str "APPROVED"), ("dataset_id", .str "dataset"),
    ("dataset_manifest_sha256", .str sampleDigest), ("approved_purpose", .str "replay"),
    ("population_scope", .str "one day"), ("window_start", .str "2026-01-01T00:00:00Z"),
    ("window_end", .str "2026-01-02T00:00:00Z"), ("valid_from", .str "2026-01-03T00:00:00Z"),
    ("expires_at", .str "2026-01-04T00:00:00Z"),
    ("approvals", .arr [sampleApproval "DATA_OWNER", sampleApproval "MISSION_OWNER",
      sampleApproval "SECURITY", sampleApproval "PRIVACY_LEGAL",
      sampleApproval "RECORDS_MANAGEMENT"]),
    ("artifact_bindings", .obj [("contract_version", .str "0.2.0"),
      ("contract_adapter", .str "canonical_jsonl_v0.2"), ("model_sha256", .str sampleDigest),
      ("policy_sha256", .str sampleDigest),
      ("artifacts", .arr [sampleArtifact "SOURCE_MAPPING" "local/gate_b/mapping",
        sampleArtifact "ADJUDICATION_PROTOCOL" "local/gate_b/adjudication",
        sampleArtifact "PILOT_PROTOCOL" "local/gate_b/pilot"])]),
    ("controls", sampleControls),
    ("custody", .obj [("snapshot_reference", .str "ticket"),
      ("custody_record_reference", .str "ticket"),
      ("external_manifest_digest_reference", .str "ticket"),
      ("frozen_at", .str "2026-01-03T00:00:00Z"), ("custodian_id", .str "owner")]),
    ("sampling", .obj [("protocol_reference", .str "ticket"),
      ("predeclared_at", .str "2026-01-01T00:00:00Z"),
      ("temporal_holdout_start", .str "2026-01-01T00:00:00Z"),
      ("temporal_holdout_end", .str "2026-01-02T00:00:00Z"),
      ("full_intake_count", .int 1), ("sample_count", .int 1), ("selection_method", .str "all"),
      ("selection_frozen", .bool true)]),
    ("stop_conditions", .obj [("max_overall_quarantine_rate", .int 1),
      ("max_category_quarantine_rates",
        .arr [.obj [("category", .str "SYNTAX"), ("max_rate", .int 1)]]),
      ("stop_on_any_fatal", .bool true), ("stop_on_unknown_failure", .bool true),
      ("thresholds_frozen", .bool true), ("escalation_owner_id", .str "owner")]),
    ("adjudication", .obj [("protocol_reference", .str "ticket"), ("minimum_reviewers", .int 2),
      ("runtime_separated", .bool true), ("labels_hidden_until_decision", .bool true),
      ("indeterminate_allowed", .bool true), ("disagreement_resolution", .str "ticket")]),
    ("independent_review", .obj [("status", .str "APPROVED"), ("reviewer_id", .str "reviewer"),
      ("review_reference", .str "ticket"), ("reviewed_at", .str "2026-01-03T00:00:00Z")]),
    ("claim_control", .obj [("claim_owner_id", .str "owner"), ("pause_authority_id", .str "owner"),
      ("revocation_authority_id", .str "owner"), ("expires_at", .str "2026-01-04T00:00:00Z"),
      ("revalidation_triggers", .arr [.str "new model"])])]

/-- The first four days of a year are read. -/
def fourDays : Library where
  fromisoformat s := ([("2026-01-01T00:00:00+00:00", .aware 63902822400000000),
    ("2026-01-02T00:00:00+00:00", .aware 63902908800000000),
    ("2026-01-03T00:00:00+00:00", .aware 63902995200000000),
    ("2026-01-04T00:00:00+00:00", .aware 63903081600000000)] : List (String × Moment)).lookup s
  floatValue _ := none
  isPrintable _ := true
  reprOther _ := ""

/-- The bytes of a document. -/
def bytesOf (document : Dict) : Bytes := Json.encodeAscii (Json.obj document).text

section Package

variable (first second : Dict)

/-- The texts of two documents are read. -/
def packageEnvironment : Environment where
  lib := fourDays
  sha256 _ := sampleDigest
  loads text :=
    if text = String.ofList (Json.obj first).text then .ok (.obj first)
    else if text = String.ofList (Json.obj second).text then .ok (.obj second)
    else .error .invalid
  sha256_isSha256 _ := by decide

theorem loads_first : (packageEnvironment first second).loads
    (String.ofList (Json.obj first).text) = .ok (.obj first) := if_pos rfl

theorem loads_second (h : (Json.obj second).text ≠ (Json.obj first).text) :
    (packageEnvironment first second).loads (String.ofList (Json.obj second).text) =
      .ok (.obj second) :=
  (if_neg fun heq => h (String.ofList_injective heq)).trans (if_pos rfl)

/-- Two documents among empty files, without a link. -/
def packageFiles : FileSystem where
  opened path :=
    if path = "manifest.json" then .regular (bytesOf first)
    else if path = "authorization.json" then .regular (bytesOf second)
    else .regular []
  resolve path := some path
  isSymlink _ := some false
  isFile _ := some true

theorem opened_first : (packageFiles first second).opened "manifest.json" =
    .regular (bytesOf first) := rfl

theorem opened_second : (packageFiles first second).opened "authorization.json" =
    .regular (bytesOf second) := rfl

end Package

def sampleControl : ManifestControl where
  path := "manifest.json"
  sourceSha256 := sampleDigest
  sourceBytes := bytesOf sampleManifest
  datasetId := "dataset"
  dataOrigin := "HISTORICAL_DEIDENTIFIED"
  historicalCaseCount := 1
  intendedMode := "HISTORICAL_REPLAY"
  casesRecordCount := 1

/-- In the middle of the third day. -/
def sampleRequest : Request where
  path := "authorization.json"
  repositoryRoot := "/"
  manifest := sampleControl
  config := ⟨"HISTORICAL_REPLAY", "QUARANTINE_RECORD", "canonical_jsonl_v0.2"⟩
  modelPath := "model.json"
  policyPath := "policy.json"
  now := some 63903038400000000
  artifactPathOverrides := none

/-- A document is loaded from its bytes. -/
theorem load_bytesOf {env : Environment} {fs : FileSystem} {path label : String} {document : Dict}
    (hnumbers : (Json.obj document).NumbersOk) (hopened : fs.opened path = .regular (bytesOf document))
    (hsize : (bytesOf document).length ≤ MAX_CONTROL_DOCUMENT_BYTES)
    (hshallow : Lib.Nesting.exceeds MAX_CONTROL_JSON_NESTING_DEPTH 0 false false
      (Json.obj document).text = false)
    (hloads : env.loads (String.ofList (Json.obj document).text) = .ok (.obj document)) :
    loadBoundedJsonObject env fs path label =
      .ok ⟨document, env.sha256 (bytesOf document), bytesOf document⟩ := by
  have hparse : parseControlDocument env (bytesOf document) = .ok (.obj document) := by
    rw [parseControlDocument, bytesOf, decodeUtf8_encodeAscii (Json.isPrintable_text _ hnumbers)]
    dsimp only
    rw [jsonNestingDepthExceeded, String.toList_ofList, hshallow]
    exact hloads
  refine bind_eq_ok.mpr ⟨bytesOf document, ?_, ?_⟩
  · rw [readBoundedRegularFile, hopened]
    exact if_neg (Nat.not_lt.mpr hsize)
  · rw [hparse]

/-- The texts of the two documents, as far as loading looks at them. -/
theorem sample_facts :
    ((bytesOf sampleManifest).length ≤ MAX_CONTROL_DOCUMENT_BYTES ∧
      Lib.Nesting.exceeds MAX_CONTROL_JSON_NESTING_DEPTH 0 false false
        (Json.obj sampleManifest).text = false) ∧
    ((bytesOf sampleAuthorization).length ≤ MAX_CONTROL_DOCUMENT_BYTES ∧
      Lib.Nesting.exceeds MAX_CONTROL_JSON_NESTING_DEPTH 0 false false
        (Json.obj sampleAuthorization).text = false) ∧
      (Json.obj sampleAuthorization).text ≠ (Json.obj sampleManifest).text := by decide +kernel

theorem load_sampleManifest :
    loadManifestControl (packageEnvironment sampleManifest sampleAuthorization)
      (packageFiles sampleManifest sampleAuthorization) "manifest.json" = .ok sampleControl := by
  obtain ⟨⟨hsize, hshallow⟩, -⟩ := sample_facts
  have hnumbers : (Json.obj sampleManifest).NumbersOk := by
    simp [sampleManifest, sampleFile, Json.NumbersOk, Json.NumbersOkFields, Json.NumbersOkItems]
  have hdocument : loadBoundedJsonObject (packageEnvironment sampleManifest sampleAuthorization)
      (packageFiles sampleManifest sampleAuthorization) "manifest.json"
      "dataset manifest" = .ok ⟨sampleManifest, sampleDigest, bytesOf sampleManifest⟩ :=
    load_bytesOf hnumbers (opened_first _ _) hsize hshallow (loads_first _ _)
  refine bind_eq_ok.mpr ⟨"manifest.json", rfl, bind_eq_ok.mpr ⟨_, hdocument, ?_⟩⟩
  unfold sampleControl
  generalize bytesOf sampleManifest = bytes
  rfl

/-- The times of the sample. -/
def sampleInterval : Interval :=
  ⟨63902822400000000, 63902908800000000, 63902995200000000, 63903081600000000⟩

/-- The other stages of the sample pass. -/
theorem sample_stages :
    (bindArtifacts (packageEnvironment sampleManifest sampleAuthorization)
      (packageFiles sampleManifest sampleAuthorization) sampleRequest (.arr
      [sampleArtifact "SOURCE_MAPPING" "local/gate_b/mapping",
        sampleArtifact "ADJUDICATION_PROTOCOL" "local/gate_b/adjudication",
        sampleArtifact "PILOT_PROTOCOL" "local/gate_b/pilot"])).isOk = true ∧
    (checkControls sampleControls).isOk = true ∧
    (checkCustody fourDays sampleInterval (Dict.get sampleAuthorization "custody")).isOk = true ∧
    (checkSampling fourDays sampleControl sampleInterval
      (Dict.get sampleAuthorization "sampling")).isOk = true ∧
    (checkStopConditions (Dict.get sampleAuthorization "stop_conditions")).isOk = true ∧
    (checkAdjudication fourDays (Dict.get sampleAuthorization "adjudication")).isOk = true ∧
    (checkIndependentReview fourDays sampleInterval ["owner", "owner", "owner", "owner", "owner"]
      (Dict.get sampleAuthorization "independent_review")).isOk = true ∧
    (checkClaimControl fourDays sampleInterval
      (Dict.get sampleAuthorization "claim_control")).isOk = true := by
  decide +kernel

theorem exists_ok {α : Type} {x : Guarded α} (h : x.isOk = true) : ∃ a, x = .ok a := by
  cases x with
  | error e => cases h
  | ok a => exact ⟨a, rfl⟩

theorem exists_bind {α β : Type} {x : Guarded α} {f : α → Guarded β} {a : α} (hx : x = .ok a)
    (hf : ∃ b, f a = .ok b) : ∃ b, (x >>= f) = .ok b := by
  rw [hx]
  exact hf

theorem load_sampleAuthorization :
    ∃ a, loadGateBAuthorization (packageEnvironment sampleManifest sampleAuthorization)
      (packageFiles sampleManifest sampleAuthorization) sampleRequest = .ok a := by
  obtain ⟨-, ⟨hsize, hshallow⟩, hne⟩ := sample_facts
  have hnumbers : (Json.obj sampleAuthorization).NumbersOk := by
    simp [sampleAuthorization, sampleControls, sampleApproval, sampleArtifact, Json.NumbersOk,
      Json.NumbersOkFields, Json.NumbersOkItems]
  have hdocument : loadBoundedJsonObject (packageEnvironment sampleManifest sampleAuthorization)
      (packageFiles sampleManifest sampleAuthorization) "authorization.json"
      "Gate B authorization" =
        .ok ⟨sampleAuthorization, sampleDigest, bytesOf sampleAuthorization⟩ :=
    load_bytesOf hnumbers (opened_second _ _) hsize hshallow (loads_second _ _ hne)
  have hhead : authorizationHead sampleControl sampleRequest.config sampleAuthorization =
      .ok ⟨"authorization", "dataset", sampleDigest⟩ := rfl
  have hinterval : authorizationInterval fourDays (some 63903038400000000) sampleAuthorization =
      .ok sampleInterval := rfl
  have happrovals : checkApprovals fourDays 63902995200000000
      (Dict.get sampleAuthorization "approvals") =
        .ok ["owner", "owner", "owner", "owner", "owner"] := rfl
  have hfiles : boundFiles (packageEnvironment sampleManifest sampleAuthorization)
      (packageFiles sampleManifest sampleAuthorization) sampleRequest
      (Dict.get sampleAuthorization "artifact_bindings") = .ok ⟨[], [], .arr
        [sampleArtifact "SOURCE_MAPPING" "local/gate_b/mapping",
          sampleArtifact "ADJUDICATION_PROTOCOL" "local/gate_b/adjudication",
          sampleArtifact "PILOT_PROTOCOL" "local/gate_b/pilot"]⟩ := rfl
  obtain ⟨hartifacts, hcontrols, hcustody, hsampling, hstop, hadjudication, hreview, hclaim⟩ :=
    sample_stages
  obtain ⟨artifacts, hartifacts⟩ := exists_ok hartifacts
  obtain ⟨_, hcontrols⟩ := exists_ok hcontrols
  obtain ⟨_, hcustody⟩ := exists_ok hcustody
  obtain ⟨counts, hsampling⟩ := exists_ok hsampling
  obtain ⟨thresholds, hstop⟩ := exists_ok hstop
  obtain ⟨_, hadjudication⟩ := exists_ok hadjudication
  obtain ⟨_, hreview⟩ := exists_ok hreview
  obtain ⟨_, hclaim⟩ := exists_ok hclaim
  refine exists_bind (a := "authorization.json") rfl (exists_bind hdocument ?_)
  refine exists_bind hhead (exists_bind hinterval (exists_bind happrovals ?_))
  refine exists_bind hfiles (exists_bind hartifacts (exists_bind hcontrols ?_))
  refine exists_bind hcustody (exists_bind hsampling (exists_bind hstop ?_))
  exact exists_bind hadjudication (exists_bind hreview (exists_bind hclaim ⟨_, rfl⟩))

/-- What both loaders have checked when the second returns. -/
theorem loaded_package_is_approved {env : Environment} {fs : FileSystem} {path : String}
    {request : Request} {a : GateBAuthorization}
    (hmanifest : loadManifestControl env fs path = .ok request.manifest)
    (hload : loadGateBAuthorization env fs request = .ok a) :
    (∃ value, Declared env fs request.manifest value) ∧ ∃ value, Approved env fs request a value :=
  ⟨declared_of_load hmanifest, approved_of_load hload⟩

theorem loaded_package_is_approved_example : ∃ a,
    loadGateBAuthorization (packageEnvironment sampleManifest sampleAuthorization)
      (packageFiles sampleManifest sampleAuthorization) sampleRequest = .ok a ∧
    (∃ value, Declared (packageEnvironment sampleManifest sampleAuthorization)
      (packageFiles sampleManifest sampleAuthorization) sampleControl value) ∧
    ∃ value, Approved (packageEnvironment sampleManifest sampleAuthorization)
      (packageFiles sampleManifest sampleAuthorization) sampleRequest a value := by
  obtain ⟨a, ha⟩ := load_sampleAuthorization
  obtain ⟨hmanifest, happroved⟩ := loaded_package_is_approved load_sampleManifest ha
  exact ⟨a, ha, hmanifest, happroved⟩

theorem admits_iff_example : ∃ a,
    loadGateBAuthorization (packageEnvironment sampleManifest sampleAuthorization)
      (packageFiles sampleManifest sampleAuthorization) sampleRequest = .ok a ∧
    ((∃ report, evaluateQualificationStopConditions a.evaluated [[("status", .str "ACCEPTED")]] =
        .ok report) ∧
      validateAcceptedCaseWindow fourDays a [[("opened_at", .str "2026-01-01T12:00:00Z")]] = .ok () ↔
        (1 : Int) = 1 ∧ ¬ Stops a.evaluated [.accepted] ∧
          ∀ record ∈ [[("opened_at", Json.str "2026-01-01T12:00:00Z")]],
            InWindow fourDays a record) := by
  obtain ⟨a, ha⟩ := load_sampleAuthorization
  have hshort : ∀ text value, (packageEnvironment sampleManifest sampleAuthorization).loads text =
      .ok value → value.allFloats isShortRepr = true := by
    intro text value hloads
    have hvalue : value = .obj sampleManifest ∨ value = .obj sampleAuthorization := by
      unfold packageEnvironment at hloads
      dsimp only at hloads
      split_ifs at hloads
      · exact .inl (Except.ok.inj hloads).symm
      · exact .inr (Except.ok.inj hloads).symm
    rcases hvalue with rfl | rfl <;> rfl
  have hrows : List.Forall₂ IsQualificationRow [[("status", .str "ACCEPTED")]] [.accepted] :=
    .cons rfl .nil
  exact ⟨a, ha, (admits_iff hshort load_sampleManifest ha hrows).1⟩

end DecisionFirewall.Replay.GateB
