import DecisionFirewall.Lab.Uncertain

/-!
# Runs of the Executor Journal

Any sequence of `reserve_or_replay` and `complete` calls on one file. The journal object
keeps nothing from one call to the next, so that a restart between two calls is no step.

- §1 the calls
- §2 what a file represents
- §3 one call
- §4 runs
-/

namespace DecisionFirewall.Lab

open Phase3 (Bytes newYearRuntime plainPrimitives zeros)

variable {rt : Runtime} {lib : JsonLibrary}

/-! ## §1 The calls -/

/-- A call of one of the two writers. -/
inductive JournalCall where
  | reserveOrReplay (key digest recordedAt : String)
  | complete (key digest receiptJson recordedAt : String)
  deriving DecidableEq, Repr

/-- A file, and the records that were appended to it. -/
structure Journaled where
  journal : Bytes
  appended : List UnsignedRecord
  deriving DecidableEq, Repr

namespace JournalCall

variable (rt : Runtime) (lib : JsonLibrary)

/-- The record that a call hands to `_append`, behind the records it has read. -/
def record (records : List JournalRecord) : JournalCall → UnsignedRecord
  | .reserveOrReplay key digest recordedAt => reservation records key digest recordedAt
  | .complete key digest receiptJson recordedAt =>
    completion records key digest receiptJson recordedAt

/-- What a call writes behind the journal. -/
def payload (journal : Bytes) : JournalCall → Option Bytes
  | .reserveOrReplay key digest recordedAt =>
    match Lab.reserveOrReplay rt lib journal key digest recordedAt with
    | .ok (.reserved payload) => some payload
    | .ok (.replayed _) => none
    | .error _ => none
  | .complete key digest receiptJson recordedAt =>
    (Lab.complete rt lib journal key digest receiptJson recordedAt).toOption

/-- The file after a call that nothing interrupts. -/
def step (s : Journaled) (c : JournalCall) : Journaled :=
  match c.payload rt lib s.journal with
  | none => s
  | some payload => ⟨s.journal ++ payload,
      s.appended ++ [c.record ((readRecords rt lib s.journal).getD [])]⟩

/-- The call completes a command without a receipt: `complete` does not look at its text. -/
def CompletesEmpty (journal : Bytes) (c : JournalCall) : Prop :=
  (c.payload rt lib journal).isSome = true ∧
    ∃ key digest recordedAt, c = .complete key digest "" recordedAt

end JournalCall

/-- The file after some calls. -/
def runJournal (rt : Runtime) (lib : JsonLibrary) (s : Journaled) (calls : List JournalCall) :
    Journaled :=
  calls.foldl (JournalCall.step rt lib) s

@[simp] theorem runJournal_nil (s : Journaled) : runJournal rt lib s [] = s := rfl

@[simp] theorem runJournal_cons (s : Journaled) (c : JournalCall) (calls : List JournalCall) :
    runJournal rt lib s (c :: calls) = runJournal rt lib (c.step rt lib s) calls := rfl

/-- A completion of the command of a reservation. -/
def UnsignedRecord.Completes (c r : UnsignedRecord) : Prop :=
  c.recordType = .completion ∧ c.idempotencyKey = r.idempotencyKey ∧
    c.commandSha256 = r.commandSha256

/-- The reader accepts the file and gives back the records that were appended; a reservation
is completed by the record behind it or is the last record, and a completion stands behind
its reservation. -/
structure Represents (rt : Runtime) (lib : JsonLibrary) (s : Journaled) : Prop where
  file : s.journal = s.appended.flatMap fun r => r.payload rt
  reads : readRecords rt lib s.journal = some (s.appended.map fun r => r.record rt)
  openLast : ∀ i r, s.appended[i]? = some r → r.recordType = .reservation →
    (∃ c, s.appended[i + 1]? = some c ∧ c.Completes r) ∨ i + 1 = s.appended.length
  completions : ∀ i c, s.appended[i]? = some c → c.recordType = .completion →
    ∃ j r, i = j + 1 ∧ s.appended[j]? = some r ∧ r.recordType = .reservation ∧ c.Completes r

theorem Represents.empty : Represents rt lib ⟨[], []⟩ where
  file := rfl
  reads := readRecords_nil
  openLast := by simp
  completions := by simp

section Represents

variable {s : Journaled}

theorem getElem?_snoc {α : Type} {xs : List α} {x y : α} {i : Nat} (h : (xs ++ [x])[i]? = some y) :
    xs[i]? = some y ∨ i = xs.length ∧ x = y := by
  rcases Nat.lt_trichotomy i xs.length with hi | rfl | hi
  · rw [List.getElem?_append_left hi] at h
    exact .inl h
  · exact .inr ⟨rfl, by simpa using h⟩
  · rw [List.getElem?_eq_none (by simp; omega)] at h
    cases h

theorem getElem?_snoc_of_some {α : Type} {xs : List α} {x y : α} {i : Nat} (h : xs[i]? = some y) :
    (xs ++ [x])[i]? = some y := by
  obtain ⟨hi, -⟩ := List.getElem?_eq_some_iff.mp h
  rw [List.getElem?_append_left hi]
  exact h

/-- A reservation at the end is an open one. -/
theorem hasOpenReservation_of_last {records : List JournalRecord} {r : JournalRecord}
    (htype : r.recordType = .reservation) : HasOpenReservation (records ++ [r]) := by
  refine ⟨r, by simp, r, ?_, htype⟩
  rw [recordsOf_append, recordsOf_singleton, if_pos rfl]
  simp

/-- Without an open reservation every reservation has its completion. -/
theorem not_last_of_not_open
    (hopen : ¬ HasOpenReservation (s.appended.map fun r => r.record rt)) {i : Nat}
    {r : UnsignedRecord} (hr : s.appended[i]? = some r) (htype : r.recordType = .reservation) :
    i + 1 ≠ s.appended.length := by
  intro hlast
  have hsplit : s.appended = s.appended.take i ++ [r] := by
    have htake := List.take_add_one (l := s.appended) (i := i)
    rw [hr, hlast, List.take_length] at htake
    exact htake
  apply hopen
  rw [hsplit, List.map_append]
  exact hasOpenReservation_of_last htype

/-- The one record of a key that is a reservation is the last record. -/
theorem Represents.last_of_reserved (h : Represents rt lib s) {i : Nat} {r : UnsignedRecord}
    (hr : s.appended[i]? = some r) (htype : r.recordType = .reservation)
    (hone : (recordsOf r.idempotencyKey (s.appended.map fun r => r.record rt)).length = 1) :
    i + 1 = s.appended.length := by
  rcases h.openLast i r hr htype with ⟨c, hc, -, hkey, -⟩ | hlast
  · -- its completion would be a second record of the key
    have hsplit : s.appended = s.appended.take i ++ r :: c :: s.appended.drop (i + 2) := by
      obtain ⟨hi, hri⟩ := List.getElem?_eq_some_iff.mp hr
      obtain ⟨hi', hci⟩ := List.getElem?_eq_some_iff.mp hc
      rw [← hri, ← hci, List.getElem_cons_drop, List.getElem_cons_drop, List.take_append_drop]
    rw [hsplit, List.map_append, recordsOf_append] at hone
    have hfirst : (r.record rt).idempotencyKey = r.idempotencyKey := rfl
    have hsecond : (c.record rt).idempotencyKey = r.idempotencyKey := hkey
    simp [recordsOf, hfirst, hsecond] at hone
    omega
  · exact hlast

/-! ## §3 One call -/

/-- A reservation behind records without an open one. -/
theorem Represents.reserve (h : Represents rt lib s) {r : UnsignedRecord}
    (hread : readRecords rt lib (s.journal ++ r.payload rt) =
      some (s.appended.map (fun r => r.record rt) ++ [r.record rt]))
    (htype : r.recordType = .reservation)
    (hopen : ¬ HasOpenReservation (s.appended.map fun r => r.record rt)) :
    Represents rt lib ⟨s.journal ++ r.payload rt, s.appended ++ [r]⟩ where
  file := by simp [h.file]
  reads := by simpa using hread
  openLast := by
    intro i x hx hreservation
    rcases getElem?_snoc hx with hx | ⟨hi, -⟩
    · rcases h.openLast i x hx hreservation with ⟨c, hc, hcompletes⟩ | hlast
      · exact .inl ⟨c, getElem?_snoc_of_some hc, hcompletes⟩
      · exact absurd hlast (not_last_of_not_open hopen hx hreservation)
    · exact .inr (by simp [hi])
  completions := by
    intro i c hc hcompletion
    rcases getElem?_snoc hc with hc | ⟨-, rfl⟩
    · obtain ⟨j, x, hj, hx, hreservation⟩ := h.completions i c hc hcompletion
      exact ⟨j, x, hj, getElem?_snoc_of_some hx, hreservation⟩
    · rw [htype] at hcompletion
      cases hcompletion

/-- A completion behind the reservation that is the last record. -/
theorem Represents.complete (h : Represents rt lib s) {i : Nat} {r c : UnsignedRecord}
    (hread : readRecords rt lib (s.journal ++ c.payload rt) =
      some (s.appended.map (fun r => r.record rt) ++ [c.record rt]))
    (hr : s.appended[i]? = some r) (hlast : i + 1 = s.appended.length)
    (htype : r.recordType = .reservation) (hcompletes : c.Completes r) :
    Represents rt lib ⟨s.journal ++ c.payload rt, s.appended ++ [c]⟩ where
  file := by simp [h.file]
  reads := by simpa using hread
  openLast := by
    intro k x hx hreservation
    rcases getElem?_snoc hx with hx | ⟨hk, rfl⟩
    · rcases h.openLast k x hx hreservation with ⟨d, hd, hcompletes'⟩ | hlast'
      · exact .inl ⟨d, getElem?_snoc_of_some hd, hcompletes'⟩
      · -- the reservation is the last record that the completion stands behind
        obtain rfl : k = i := by omega
        obtain rfl : r = x := Option.some.inj (hr.symm.trans hx)
        exact .inl ⟨c, by rw [hlast']; simp, hcompletes⟩
    · exact .inr (by simp [hk])
  completions := by
    intro k d hd hcompletion
    rcases getElem?_snoc hd with hd | ⟨hk, rfl⟩
    · obtain ⟨j, x, hj, hx, hreservation⟩ := h.completions k d hd hcompletion
      exact ⟨j, x, hj, getElem?_snoc_of_some hx, hreservation⟩
    · exact ⟨i, r, by omega, getElem?_snoc_of_some hr, htype, hcompletes⟩

/-- The reservation that a completion closes. -/
theorem Represents.reserved_of_complete (h : Represents rt lib s)
    {key digest receiptJson recordedAt : String} {payload : Bytes}
    (hcomplete : Lab.complete rt lib s.journal key digest receiptJson recordedAt = .ok payload) :
    ∃ (i : Nat) (r : UnsignedRecord), s.appended[i]? = some r ∧
      (recordsOf key (s.appended.map fun r => r.record rt)).length = 1 ∧
      r.recordType = .reservation ∧ r.idempotencyKey = key ∧ r.commandSha256 = digest := by
  unfold Lab.complete at hcomplete
  simp only [h.reads] at hcomplete
  split at hcomplete
  · next x hmatches =>
    split_ifs at hcomplete with htype hdigest
    simp only [ne_eq, not_not] at htype hdigest
    have hmem : x ∈ recordsOf key (s.appended.map fun r => r.record rt) := by simp [hmatches]
    obtain ⟨hx, hkey⟩ := List.mem_filter.mp hmem
    obtain ⟨r, hr, rfl⟩ := List.mem_map.mp hx
    obtain ⟨i, hi⟩ := List.getElem?_of_mem hr
    exact ⟨i, r, hi, by rw [hmatches]; rfl, htype, of_decide_eq_true hkey, hdigest⟩
  · cases hcomplete

/-- A call keeps what the file represents unless it completes a command without a receipt. -/
theorem Represents.step (h : Represents rt lib s) {c : JournalCall}
    (hc : ¬ c.CompletesEmpty rt lib s.journal) : Represents rt lib (c.step rt lib s) := by
  unfold JournalCall.step
  cases hpayload : c.payload rt lib s.journal with
  | none => exact h
  | some payload =>
    rw [h.reads, Option.getD_some]
    cases c with
    | reserveOrReplay key digest recordedAt =>
      have hreserved : reserveOrReplay rt lib s.journal key digest recordedAt =
          .ok (.reserved payload) := by
        simp only [JournalCall.payload] at hpayload
        split at hpayload
        · next hok =>
          cases hpayload
          exact hok
        · cases hpayload
        · cases hpayload
      obtain ⟨records, hread, -, hopen, rfl, hwhole⟩ := reserveOrReplay_eq_reserved hreserved
      obtain rfl := Option.some.inj (h.reads.symm.trans hread)
      exact h.reserve hwhole rfl hopen
    | complete key digest receiptJson recordedAt =>
      have hcomplete : Lab.complete rt lib s.journal key digest receiptJson recordedAt =
          .ok payload := by
        simp only [JournalCall.payload] at hpayload
        cases hok : Lab.complete rt lib s.journal key digest receiptJson recordedAt with
        | error e =>
          rw [hok] at hpayload
          cases hpayload
        | ok written =>
          rw [hok] at hpayload
          cases hpayload
          rfl
      have hreceipt : receiptJson ≠ "" := by
        rintro rfl
        exact hc ⟨by rw [hpayload]; rfl, key, digest, recordedAt, rfl⟩
      obtain ⟨records, hread, rfl, hwhole⟩ := complete_eq_ok hreceipt hcomplete
      obtain rfl := Option.some.inj (h.reads.symm.trans hread)
      obtain ⟨i, r, hr, hone, htype, hkey, hdigest⟩ := h.reserved_of_complete hcomplete
      refine h.complete hwhole hr (h.last_of_reserved hr htype ?_) htype ⟨rfl, hkey.symm, hdigest.symm⟩
      rw [hkey, hone]

end Represents

/-! ## §4 Runs -/

end DecisionFirewall.Lab
