import DecisionFirewall.Engine.Library
import DecisionFirewall.Lib.Prog
import DecisionFirewall.Lib.Sorting

/-!
# The Checks of the Reference

`replay/reference_decision.py`: a second implementation of the decision path, with its own
reading of every value. Its errors carry a code and nothing else.

- §1 errors
- §2 numbers
- §3 texts
- §4 canonical texts
- §5 what the checks accept
-/

namespace DecisionFirewall.Reference

open Engine (EngineFloat LawfulEngineFloat floatOf intOf truncate)
open Engine.EngineFloat (lit le exact)
open Lib (bind_eq_ok)

/-! ## §1 Errors -/

/-- What the reference raises: its own error with a code, or an exception of another kind. -/
inductive Failure where
  | assurance (code : String)
  | typeError
  | overflowError
  deriving DecidableEq, Repr

/-- A part of the reference. -/
abbrev Checked (α : Type) := Except Failure α

/-- `_fail(code)`. -/
def fail {α : Type} (code : String) : Checked α := .error (.assurance code)

/-- `if not condition: _fail(code)`. -/
def require (condition : Prop) [Decidable condition] (code : String) : Checked Unit :=
  if condition then .ok () else fail code

/-- `isinstance(value, dict) and frozenset(value) == fields`. -/
def hasFields (value : Dict) (fields : List String) : Bool :=
  (value.map Prod.fst).all (fields.contains ·) && fields.all ((value.map Prod.fst).contains ·)

/-! ## §2 Numbers -/

section Numbers

variable {F : Type} [EngineFloat F]

/-- A number with an exact value. -/
def finite (code : String) (x : F) : Checked F := if (exact x).isSome then .ok x else fail code

/-- `_finite_number(value)`. -/
def finiteNumber (code : String) : Json → Checked F
  | .int n => match EngineFloat.ofInt n with
    | some x => finite code x
    | none => fail code
  | .float text => finite code (EngineFloat.ofText text)
  | _ => fail code

/-- `_unit_number(value)`. -/
def unitNumber (code : String) (value : Json) : Checked F := do
  let number ← finiteNumber code value
  require (le (lit 0) number = true ∧ le number (lit 1) = true) code
  return number

variable (F) in
/-- `_exact_integer(value, lower=…, upper=…)`. -/
def exactInteger (code : String) (lower upper : Int) (value : Json) : Checked Int := do
  let number : F ← finiteNumber code value
  match exact number with
  | some q => if q.den = 1 ∧ lower ≤ q.num ∧ q.num ≤ upper then .ok q.num else fail code
  | none => fail code

end Numbers

/-! ## §3 Texts -/

/-- `_identifier(value)`. -/
def identifier (code : String) : Json → Checked String
  | .str s => if Replay.IsIdentifier s then .ok s else fail code
  | _ => fail code

/-- `_identifier(value, allow_empty=True)`. -/
def identifierOrEmpty (code : String) (value : Json) : Checked String :=
  match value with
  | .str "" => .ok ""
  | value => identifier code value

/-- `_timestamp(value)`, as the instant. -/
def timestamp (lib : Engine.Library) (code : String) : Json → Checked Int
  | .str s => match lib.fromisoformat (Replay.replaceZulu s) with
    | some (.aware instant) => .ok instant
    | some (.naive _) | none => fail code
  | _ => fail code

/-- `_string_list(value)`. -/
def stringList (code : String) : Json → Checked (List String)
  | .arr xs => do
    let checked ← xs.mapM (identifier code)
    require checked.Nodup code
    return checked
  | _ => fail code

/-- `type(value) is bool`. -/
def boolean (code : String) : Json → Checked Bool
  | .bool b => .ok b
  | _ => fail code

/-- `isinstance(value, str)`. -/
def text (code : String) : Json → Checked String
  | .str s => .ok s
  | _ => fail code

/-- `isinstance(value, dict)`. -/
def object (code : String) : Json → Checked Dict
  | .obj fields => .ok fields
  | _ => fail code

/-- `isinstance(value, list)`. -/
def array (code : String) : Json → Checked (List Json)
  | .arr xs => .ok xs
  | _ => fail code

/-- `value in names` of a frozen set: a list or a dictionary cannot be looked up. -/
def memberText (names : List String) (code : String) : Json → Checked String
  | .str s => if s ∈ names then .ok s else fail code
  | .arr _ | .obj _ => .error .typeError
  | _ => fail code

/-! ## §4 Canonical texts -/

section Canonical

variable (lib : Engine.Library) (F : Type) [EngineFloat F]

/-- Every number of the value can be written. -/
def writable (value : Json) : Bool :=
  value.allFloats fun text => (exact (EngineFloat.ofText text : F)).isSome

/-- `_canonical_bytes(value)`. -/
def canonicalBytes (value : Json) : Checked String :=
  if writable F value then .ok (canonicalJson value) else fail "REFERENCE_DECISION_CANONICALIZATION"

end Canonical

/-! ## §5 What the checks accept -/

section Facts

variable {F : Type} [EngineFloat F] {code : String} {value : Json}

/-- A value that is returned under a condition. -/
theorem ite_fail_eq_ok {α : Type} {condition : Prop} [Decidable condition] {a b : α} :
    (if condition then .ok a else fail code : Checked α) = .ok b ↔ a = b ∧ condition := by
  split
  · rename_i h
    rw [Except.ok.injEq]
    exact ⟨fun heq => ⟨heq, h⟩, fun heq => heq.1⟩
  · rename_i h
    exact ⟨fun heq => (by cases heq), fun heq => absurd heq.2 h⟩

theorem require_eq_ok {condition : Prop} [Decidable condition] {u : Unit} :
    require condition code = .ok u ↔ condition := by
  unfold require
  rw [ite_fail_eq_ok]
  exact ⟨fun h => h.2, fun h => ⟨rfl, h⟩⟩

theorem hasFields_iff {fields : Dict} {names : List String} :
    hasFields fields names = true ↔ ∀ name, name ∈ fields.map Prod.fst ↔ name ∈ names := by
  simp only [hasFields, Bool.and_eq_true, List.all_eq_true, List.contains_iff_mem]
  exact ⟨fun h name => ⟨h.1 name, h.2 name⟩, fun h => ⟨fun name => (h name).mp, fun name => (h name).mpr⟩⟩

theorem finite_eq_ok {x y : F} : finite code x = .ok y ↔ x = y ∧ (exact y).isSome = true := by
  unfold finite
  rw [ite_fail_eq_ok]
  constructor
  · rintro ⟨rfl, h⟩
    exact ⟨rfl, h⟩
  · rintro ⟨rfl, h⟩
    exact ⟨rfl, h⟩

theorem finiteNumber_int {n : Int} {x : F} :
    finiteNumber code (.int n) = .ok x ↔
      EngineFloat.ofInt n = some x ∧ (exact x).isSome = true := by
  show (match (EngineFloat.ofInt n : Option F) with
    | some y => finite code y
    | none => fail code) = .ok x ↔ _
  cases (EngineFloat.ofInt n : Option F) with
  | none => exact ⟨fun h => (by cases h), fun h => (by cases h.1)⟩
  | some y => rw [finite_eq_ok, Option.some.injEq]

/-- A finite number is what `float` makes of the value. -/
theorem floatOf_of_finiteNumber {x : F} (h : finiteNumber code value = .ok x) :
    floatOf F value = .ok x ∧ (exact x).isSome = true := by
  cases value with
  | int n =>
    obtain ⟨hx, hfinite⟩ := finiteNumber_int.mp h
    refine ⟨?_, hfinite⟩
    show (match (EngineFloat.ofInt n : Option F) with
      | some y => Except.ok y
      | none => Except.error Engine.Raised.overflowError) = .ok x
    rw [hx]
  | float text =>
    obtain ⟨rfl, hfinite⟩ := finite_eq_ok.mp h
    exact ⟨rfl, hfinite⟩
  | null | bool | str | arr | obj => cases h

theorem unitNumber_eq_ok {x : F} (h : unitNumber code value = .ok x) :
    floatOf F value = .ok x ∧ (exact x).isSome = true ∧
      le (lit 0) x = true ∧ le x (lit 1) = true := by
  obtain ⟨y, hy, h⟩ := bind_eq_ok.mp h
  obtain ⟨u, hrange, h⟩ := bind_eq_ok.mp h
  cases h
  obtain ⟨hfloat, hfinite⟩ := floatOf_of_finiteNumber hy
  exact ⟨hfloat, hfinite, require_eq_ok.mp hrange⟩

theorem exactInteger_eq_ok {lower upper n : Int} :
    exactInteger F code lower upper value = .ok n ↔
      ∃ (x : F) (q : ℚ), finiteNumber code value = .ok x ∧ exact x = some q ∧ q.den = 1 ∧
        q.num = n ∧ lower ≤ n ∧ n ≤ upper := by
  unfold exactInteger fail
  rw [bind_eq_ok]
  constructor
  · rintro ⟨x, hx, h⟩
    split at h
    · rename_i q hq
      split at h
      · rename_i hbounds
        cases h
        exact ⟨x, q, hx, hq, hbounds.1, rfl, hbounds.2⟩
      · cases h
    · cases h
  · rintro ⟨x, q, hx, hq, hden, rfl, hbounds⟩
    refine ⟨x, hx, ?_⟩
    rw [hq]
    exact if_pos ⟨hden, hbounds⟩

/-- An exact integer within small bounds is what `int` makes of the value. -/
theorem intOf_of_exactInteger [LawfulEngineFloat F] {lib : Engine.Library} {lower upper n : Int}
    (hlower : -1000000 ≤ lower) (hupper : upper ≤ 1000000)
    (h : exactInteger F code lower upper value = .ok n) : intOf F lib value = .ok n := by
  obtain ⟨x, q, hx, hq, hden, hn, hle, hge⟩ := exactInteger_eq_ok.mp h
  have hvalue : q = n := by
    rw [← hn]
    exact (Rat.den_eq_one_iff q).mp hden |>.symm
  cases value with
  | int m =>
    obtain ⟨hm, -⟩ := finiteNumber_int.mp hx
    have hsmall : |q| < 2 ^ 53 := by
      rw [hvalue, abs_lt]
      constructor
      · have hbound : (-1000000 : ℚ) ≤ n := by exact_mod_cast hlower.trans hle
        linarith
      · have hbound : (n : ℚ) ≤ 1000000 := by exact_mod_cast hge.trans hupper
        linarith
    have hsame : q = m := LawfulEngineFloat.ofInt_exact m x q hm hq hsmall
    have heq : m = n := by exact_mod_cast hsame.symm.trans hvalue
    rw [heq]
    rfl
  | float text =>
    obtain ⟨rfl, -⟩ := finite_eq_ok.mp hx
    have htruncate : truncate q = n := by
      unfold truncate
      rw [hvalue]
      split
      · exact Rat.floor_intCast n
      · exact Rat.ceil_intCast n
    show (match exact (EngineFloat.ofText text : F) with
      | some q => Except.ok (truncate q)
      | none => Except.error Engine.Raised.valueError) = .ok n
    rw [hq]
    exact congrArg Except.ok htruncate
  | null | bool | str | arr | obj => cases hx

theorem identifier_eq_ok {s : String} :
    identifier code value = .ok s ↔ value = .str s ∧ Replay.IsIdentifier s := by
  cases value with
  | str t =>
    show (if Replay.IsIdentifier t then .ok t else fail code : Checked String) = .ok s ↔ _
    rw [ite_fail_eq_ok, Json.str.injEq]
    constructor
    · rintro ⟨rfl, h⟩
      exact ⟨rfl, h⟩
    · rintro ⟨rfl, h⟩
      exact ⟨rfl, h⟩
  | null | bool | int | float | arr | obj =>
    exact ⟨fun h => (by cases h), fun h => (by cases h.1)⟩

theorem identifierOrEmpty_eq_ok {s : String} (h : identifierOrEmpty code value = .ok s) :
    value = .str s := by
  unfold identifierOrEmpty at h
  split at h
  · cases h
    rfl
  · exact (identifier_eq_ok.mp h).1

theorem timestamp_str {lib : Engine.Library} {s : String} {instant : Int} :
    timestamp lib code (.str s) = .ok instant ↔
      lib.fromisoformat (Replay.replaceZulu s) = some (.aware instant) := by
  show (match lib.fromisoformat (Replay.replaceZulu s) with
    | some (.aware t) => .ok t
    | some (.naive _) | none => fail code : Checked Int) = .ok instant ↔ _
  split
  · rename_i t ht
    rw [ht, Except.ok.injEq, Option.some.injEq, Engine.Datetime.aware.injEq]
  · rename_i t ht
    rw [ht]
    exact ⟨fun h => (by cases h), fun h => (by cases h)⟩
  · rename_i hnone
    rw [hnone]
    exact ⟨fun h => (by cases h), fun h => (by cases h)⟩

theorem timestamp_eq_ok {lib : Engine.Library} {instant : Int}
    (h : timestamp lib code value = .ok instant) :
    ∃ s, value = .str s ∧ lib.fromisoformat (Replay.replaceZulu s) = some (.aware instant) := by
  cases value with
  | str s => exact ⟨s, rfl, timestamp_str.mp h⟩
  | null | bool | int | float | arr | obj => cases h

theorem boolean_eq_ok {b : Bool} : boolean code value = .ok b ↔ value = .bool b := by
  cases value with
  | bool c =>
    show Except.ok c = Except.ok b ↔ _
    rw [Except.ok.injEq, Json.bool.injEq]
  | null | int | float | str | arr | obj => exact ⟨fun h => (by cases h), fun h => (by cases h)⟩

theorem text_eq_ok {s : String} : text code value = .ok s ↔ value = .str s := by
  cases value with
  | str t =>
    show Except.ok t = Except.ok s ↔ _
    rw [Except.ok.injEq, Json.str.injEq]
  | null | bool | int | float | arr | obj => exact ⟨fun h => (by cases h), fun h => (by cases h)⟩

theorem object_eq_ok {fields : Dict} : object code value = .ok fields ↔ value = .obj fields := by
  cases value with
  | obj fields' =>
    show Except.ok fields' = Except.ok fields ↔ _
    rw [Except.ok.injEq, Json.obj.injEq]
  | null | bool | int | float | str | arr => exact ⟨fun h => (by cases h), fun h => (by cases h)⟩

theorem array_eq_ok {xs : List Json} : array code value = .ok xs ↔ value = .arr xs := by
  cases value with
  | arr ys =>
    show Except.ok ys = Except.ok xs ↔ _
    rw [Except.ok.injEq, Json.arr.injEq]
  | null | bool | int | float | str | obj => exact ⟨fun h => (by cases h), fun h => (by cases h)⟩

theorem memberText_eq_ok {names : List String} {s : String} :
    memberText names code value = .ok s ↔ value = .str s ∧ s ∈ names := by
  cases value with
  | str t =>
    show (if t ∈ names then .ok t else fail code : Checked String) = .ok s ↔ _
    rw [ite_fail_eq_ok, Json.str.injEq]
    constructor
    · rintro ⟨rfl, h⟩
      exact ⟨rfl, h⟩
    · rintro ⟨rfl, h⟩
      exact ⟨rfl, h⟩
  | null | bool | int | float | arr | obj =>
    exact ⟨fun h => (by cases h), fun h => (by cases h.1)⟩

end Facts

end DecisionFirewall.Reference
