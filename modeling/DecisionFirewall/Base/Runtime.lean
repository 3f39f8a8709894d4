import DecisionFirewall.Base.Json

/-!
# Runtime

The two library functions whose results the stores compare: the hexadecimal
SHA-256 digest of a text and `datetime.fromisoformat`. Everything below holds for
every digest function and every reading of timestamp texts, so they are fields of
a structure and not definitions; the one law says what the shape of a digest is.

## Bounded texts

The `_require_*` checks of `adf_poc/stage_a.py` accept a text or raise. Here each
is the condition under which the check accepts.
-/

namespace DecisionFirewall

/-! ## §1 Digests -/

/-- `_require_sha256` accepts `s`. -/
def IsSha256 (s : String) : Prop :=
  s.length = 64 ∧ ∀ c ∈ s.toList, c ∈ "0123456789abcdef".toList

instance (s : String) : Decidable (IsSha256 s) :=
  decidable_of_iff (s.length = 64 ∧ s.toList.all ("0123456789abcdef".toList.contains ·) = true)
    (and_congr_right' (by simp [List.all_eq_true]))

/-- `_require_identifier` accepts `s`. -/
def IsIdentifier (s : String) : Prop :=
  s ≠ "" ∧ s.length ≤ 512

instance (s : String) : Decidable (IsIdentifier s) :=
  inferInstanceAs (Decidable (_ ∧ _))

theorem IsSha256.isIdentifier {s : String} (h : IsSha256 s) : IsIdentifier s := by
  refine ⟨?_, by have := h.1; omega⟩
  rintro rfl
  simpa using h.1

/-- Hexadecimal digits are written without an escape. -/
theorem IsSha256.length_renderString {s : String} (h : IsSha256 s) :
    (Json.renderString s).length = 66 := by
  have hchar : ∀ c ∈ "0123456789abcdef".toList, Json.escapeChar c = [c] := by
    have hall : "0123456789abcdef".toList.all (fun c => Json.escapeChar c = [c]) = true := by rfl
    simpa only [List.all_eq_true, decide_eq_true_eq] using hall
  have hflat : ∀ l : List Char, (∀ c ∈ l, c ∈ "0123456789abcdef".toList) →
      l.flatMap Json.escapeChar = l := by
    intro l hl
    induction l with
    | nil => rfl
    | cons c l ih =>
      rw [List.flatMap_cons, hchar c (hl c (by simp)),
        ih fun d hd => hl d (List.mem_cons_of_mem _ hd)]
      rfl
  have hlen : s.toList.length = 64 := by rw [String.length_toList]; exact h.1
  simp [Json.renderString, hflat _ h.2, hlen]

/-! ## §2 The runtime -/

/-- The digest and timestamp functions of the standard library. `fromisoformat` is
`none` on a text that is no timestamp or carries no UTC offset; instants are in
microseconds since the epoch, in UTC. -/
structure Runtime where
  /-- `hashlib.sha256(text.encode("utf-8")).hexdigest()` -/
  sha256 : String → String
  /-- `datetime.fromisoformat`, restricted to offset-aware results -/
  fromisoformat : String → Option Int
  /-- `datetime.isoformat` of an instant in UTC -/
  isoformat : Int → String
  /-- a digest is 64 lowercase hexadecimal characters -/
  sha256_isSha256 : ∀ s, IsSha256 (sha256 s)
  /-- the text of the whole second of an instant is read back, and it is short -/
  isoformat_second : ∀ s t, fromisoformat s = some t →
    isoformat (t - t % 1000000) ≠ "" ∧ (isoformat (t - t % 1000000)).length ≤ 64 ∧
      fromisoformat (isoformat (t - t % 1000000)) = some (t - t % 1000000)

namespace Runtime

/-- The text of an instant in a table. -/
def textOf (instants : List (String × Int)) (t : Int) : String :=
  ((instants.find? fun i => i.2 = t).map Prod.fst).getD ""

/-- The table names the whole second of each of its instants. -/
def SecondsNamed (instants : List (String × Int)) : Prop :=
  ∀ i ∈ instants, textOf instants (i.2 - i.2 % 1000000) ≠ "" ∧
    (textOf instants (i.2 - i.2 % 1000000)).length ≤ 64 ∧
      instants.lookup (textOf instants (i.2 - i.2 % 1000000)) = some (i.2 - i.2 % 1000000)

instance (instants : List (String × Int)) : Decidable (SecondsNamed instants) :=
  inferInstanceAs (Decidable (∀ i ∈ instants, _))

/-- The runtime that reads the listed texts as the listed instants, under any digest. -/
def ofInstants (instants : List (String × Int)) (sha256 : String → String)
    (h : ∀ s, IsSha256 (sha256 s)) (hinstants : SecondsNamed instants := by decide) :
    Runtime where
  sha256 := sha256
  fromisoformat s := instants.lookup s
  isoformat := textOf instants
  sha256_isSha256 := h
  isoformat_second s t hs := by
    obtain ⟨l₁, l₂, rfl, -⟩ := List.lookup_eq_some_iff.mp hs
    exact hinstants (s, t) (by simp)

/-- The first seconds of 2026. -/
def newYear : List (String × Int) :=
  [("2026-01-01T00:00:00+00:00", 1767225600000000), ("2026-01-01T00:00:01+00:00", 1767225601000000),
    ("2026-01-01T00:00:02+00:00", 1767225602000000)]

theorem secondsNamed_newYear : SecondsNamed newYear := by decide

/-- The digest function that reads a table of digests. -/
def ofDigests (digests : List (String × String)) (text : String) : String :=
  (digests.lookup text).getD "0000000000000000000000000000000000000000000000000000000000000000"

theorem ofDigests_isSha256 {digests : List (String × String)} (h : ∀ d ∈ digests, IsSha256 d.2)
    (text : String) : IsSha256 (ofDigests digests text) := by
  unfold ofDigests
  cases hd : digests.lookup text with
  | none => decide
  | some d =>
    obtain ⟨l₁, l₂, rfl, -⟩ := List.lookup_eq_some_iff.mp hd
    exact h (text, d) (by simp)

variable (rt : Runtime)

/-- `sha256_json(value)`. -/
def sha256Json (value : Json) : String :=
  rt.sha256 (canonicalJson value)

theorem sha256Json_isSha256 (value : Json) : IsSha256 (rt.sha256Json value) :=
  rt.sha256_isSha256 _

/-! ## §3 Timestamps -/

/-- `_is_offset_timestamp(s)`. -/
def IsOffsetTimestamp (s : String) : Prop :=
  s ≠ "" ∧ s.length ≤ 64 ∧ (rt.fromisoformat s).isSome = true

instance (s : String) : Decidable (rt.IsOffsetTimestamp s) :=
  inferInstanceAs (Decidable (_ ∧ _ ∧ _))

/-- Both texts are timestamps and the first instant is no later than the second:
`not (datetime.fromisoformat(b) < datetime.fromisoformat(a))` returns true. -/
def AtMost (a b : String) : Prop :=
  match rt.fromisoformat a, rt.fromisoformat b with
  | some x, some y => x ≤ y
  | _, _ => False

instance (a b : String) : Decidable (rt.AtMost a b) := by
  unfold AtMost
  split <;> infer_instance

theorem atMost_iff {a b : String} :
    rt.AtMost a b ↔
      ∃ x y, rt.fromisoformat a = some x ∧ rt.fromisoformat b = some y ∧ x ≤ y := by
  unfold AtMost
  cases ha : rt.fromisoformat a <;> cases hb : rt.fromisoformat b <;> simp

theorem AtMost.refl_of_isSome {a : String} (h : (rt.fromisoformat a).isSome = true) :
    rt.AtMost a a := by
  obtain ⟨x, hx⟩ := Option.isSome_iff_exists.mp h
  exact rt.atMost_iff.mpr ⟨x, x, hx, hx, le_rfl⟩

theorem AtMost.trans {a b c : String} (hab : rt.AtMost a b) (hbc : rt.AtMost b c) :
    rt.AtMost a c := by
  obtain ⟨x, y, hx, hy, hxy⟩ := rt.atMost_iff.mp hab
  obtain ⟨y', z, hy', hz, hyz⟩ := rt.atMost_iff.mp hbc
  rw [hy] at hy'
  cases hy'
  exact rt.atMost_iff.mpr ⟨x, z, hx, hz, hxy.trans hyz⟩

theorem IsOffsetTimestamp.isIdentifier {s : String} (h : rt.IsOffsetTimestamp s) :
    IsIdentifier s :=
  ⟨h.1, by have := h.2.1; omega⟩

theorem IsOffsetTimestamp.atMost_self {s : String} (h : rt.IsOffsetTimestamp s) :
    rt.AtMost s s :=
  AtMost.refl_of_isSome rt h.2.2

/-! ## §4 Instants -/

/-- The instant is a `datetime`: its text is a timestamp and reads back. -/
def IsDatetime (t : Int) : Prop :=
  rt.isoformat t ≠ "" ∧ (rt.isoformat t).length ≤ 64 ∧ rt.fromisoformat (rt.isoformat t) = some t

instance (t : Int) : Decidable (rt.IsDatetime t) :=
  inferInstanceAs (Decidable (_ ∧ _ ∧ _))

/-- `t.replace(microsecond=0)`. -/
def truncate (t : Int) : Int := t - t % 1000000

variable {rt} in
theorem IsDatetime.isOffsetTimestamp {t : Int} (h : rt.IsDatetime t) :
    rt.IsOffsetTimestamp (rt.isoformat t) :=
  ⟨h.1, h.2.1, by rw [h.2.2]; rfl⟩

/-- The second of a parsed timestamp is a `datetime`. -/
theorem isDatetime_truncate {s : String} {t : Int} (h : rt.fromisoformat s = some t) :
    rt.IsDatetime (truncate t) :=
  rt.isoformat_second s t h

variable {rt} in
theorem IsDatetime.truncate {t : Int} (h : rt.IsDatetime t) : rt.IsDatetime (truncate t) :=
  rt.isDatetime_truncate h.2.2

variable {rt} in
/-- The texts of instants compare as the instants do. -/
theorem atMost_isoformat {t u : Int} (ht : rt.IsDatetime t) (hu : rt.IsDatetime u) :
    rt.AtMost (rt.isoformat t) (rt.isoformat u) ↔ t ≤ u := by
  rw [atMost_iff, ht.2.2, hu.2.2]
  simp

/-- `t + timedelta(seconds=n)`; `none` is an `OverflowError`. -/
def addSeconds (t n : Int) : Option Int :=
  if rt.IsDatetime (t + n * 1000000) then some (t + n * 1000000) else none

theorem truncate_le (t : Int) : truncate t ≤ t := by
  unfold truncate
  omega

theorem truncate_mono {t u : Int} (h : t ≤ u) : truncate t ≤ truncate u := by
  unfold truncate
  omega

@[simp] theorem truncate_truncate (t : Int) : truncate (truncate t) = truncate t := by
  unfold truncate
  omega

end Runtime

end DecisionFirewall
