import DecisionFirewall.Base.Float
import DecisionFirewall.Base.Runtime
import DecisionFirewall.Replay.Contracts

/-!
# What the Engine Takes from the Interpreter

The numbers, conversions and comparisons of Python that the first-phase engine uses on a policy
which nobody has validated.

- §1 floats
- §2 exceptions
- §3 the standard library
- §4 conversions
- §5 exact rationals
-/

namespace DecisionFirewall.Engine

open Replay (Moment)

/-! ## §1 Floats -/

/-- The values of `float`, infinities and NaN among them, with the operations of the engine. -/
class EngineFloat (F : Type) where
  /-- `float(n)`; `none` is an `OverflowError` -/
  ofInt : Int → Option F
  /-- `n / m` of two integers, correctly rounded -/
  ratio : Int → Int → F
  /-- the number that `json.loads` reads from this text -/
  ofText : String → F
  /-- `float(s)` of a text; `none` is a `ValueError` -/
  parse : String → Option F
  /-- `x + y` -/
  add : F → F → F
  /-- `x - y` -/
  sub : F → F → F
  /-- `x * y` -/
  mul : F → F → F
  /-- `x / y`; a divisor that is zero gives an infinity or NaN -/
  div : F → F → F
  /-- `-x` -/
  neg : F → F
  /-- `math.exp(x)` of a number that is at most 30 -/
  exp : F → F
  /-- `x <= y` -/
  le : F → F → Bool
  /-- `x < y` -/
  lt : F → F → Bool
  /-- `math.fsum(xs)`; `none` is an exception -/
  fsum : List F → Option F
  /-- `round(x, 6)` -/
  round6 : F → F
  /-- `round(x, 8)` -/
  round8 : F → F
  /-- `f"{x:.2f}"` -/
  format2 : F → String
  /-- `f"{x:.3f}"` -/
  format3 : F → String
  /-- the text `json.dumps` writes for `x` -/
  repr : F → String
  /-- the number that `x` is, unless it is an infinity or NaN -/
  exact : F → Option ℚ

namespace EngineFloat

variable {F : Type} [EngineFloat F]

/-- A small integer. -/
def lit (n : Int) : F := ratio n 1

/-- `min(x, y)`: the first argument unless the second is smaller. -/
def min (x y : F) : F := if lt y x then y else x

/-- `max(x, y)`: the first argument unless the second is larger. -/
def max (x y : F) : F := if lt x y then y else x

/-- `timedelta.total_seconds()` of a difference in microseconds. -/
def totalSeconds (microseconds : Int) : F := ratio microseconds 1000000

/-- The number as a member of an object. -/
def toJson (x : F) : Json := .float (repr x)

end EngineFloat

/-- What the values satisfy. Finite ones compare as the rationals that they are, and an integer
of less than 54 bits is one. `x <= x` holds of everything but NaN, which the operations of the
risk model keep and which has no JSON text. -/
class LawfulEngineFloat (F : Type) [EngineFloat F] : Prop where
  lt_iff : ∀ (x y : F) (p q : ℚ), EngineFloat.exact x = some p → EngineFloat.exact y = some q →
    (EngineFloat.lt x y = true ↔ p < q)
  le_iff : ∀ (x y : F) (p q : ℚ), EngineFloat.exact x = some p → EngineFloat.exact y = some q →
    (EngineFloat.le x y = true ↔ p ≤ q)
  le_self : ∀ x y : F, EngineFloat.le x y = true →
    EngineFloat.le x x = true ∧ EngineFloat.le y y = true
  le_trans : ∀ x y z : F, EngineFloat.le x y = true → EngineFloat.le y z = true →
    EngineFloat.le x z = true
  le_total : ∀ x y : F, EngineFloat.le x x = true → EngineFloat.le y y = true →
    EngineFloat.le x y = true ∨ EngineFloat.le y x = true
  lt_iff_le_not_le : ∀ x y : F, EngineFloat.lt x y = true ↔
    EngineFloat.le x y = true ∧ EngineFloat.le y x = false
  /-- only zeros share a number -/
  eq_of_le : ∀ (x y : F) (q : ℚ), q ≠ 0 → EngineFloat.exact y = some q →
    EngineFloat.le x y = true → EngineFloat.le y x = true → x = y
  exact_lit : ∀ n : Int, |n| < 2 ^ 53 → EngineFloat.exact (EngineFloat.lit n : F) = some (n : ℚ)
  exact_ofInt : ∀ n : Int, |n| < 2 ^ 53 → ∃ x : F, EngineFloat.ofInt n = some x ∧
    EngineFloat.exact x = some (n : ℚ)
  ofInt_exact : ∀ (n : Int) (x : F) (q : ℚ), EngineFloat.ofInt n = some x →
    EngineFloat.exact x = some q → |q| < 2 ^ 53 → q = n
  nan_neg : ∀ x : F, EngineFloat.le x x = false →
    EngineFloat.le (EngineFloat.neg x) (EngineFloat.neg x) = false
  nan_exp : ∀ x : F, EngineFloat.le x x = false →
    EngineFloat.le (EngineFloat.exp x) (EngineFloat.exp x) = false
  nan_add : ∀ x y : F, EngineFloat.le y y = false →
    EngineFloat.le (EngineFloat.add x y) (EngineFloat.add x y) = false
  nan_div : ∀ x y : F, EngineFloat.le y y = false →
    EngineFloat.le (EngineFloat.div x y) (EngineFloat.div x y) = false
  nan_round8 : ∀ x : F, EngineFloat.le x x = false →
    EngineFloat.le (EngineFloat.round8 x) (EngineFloat.round8 x) = false
  /-- a text that is read as a finite number was written for no NaN -/
  le_self_of_repr : ∀ x : F,
    (EngineFloat.exact (EngineFloat.ofText (EngineFloat.repr x) : F)).isSome = true →
      EngineFloat.le x x = true

/-! ## §2 Exceptions -/

/-- What the engine raises. -/
inductive Raised where
  | keyError (name : String)
  | typeError
  | valueError
  | overflowError
  | featureContract
  | authorization (message : String)
  /-- the audit logger raises -/
  | audit
  deriving DecidableEq, Repr

/-- A part of the engine that calls nothing. -/
abbrev Checked (α : Type) := Except Raised α

/-- `x and y`: the second operand is evaluated where the first one holds. -/
def andThen (x y : Checked Bool) : Checked Bool := x >>= fun b => if b then y else .ok false

/-- `x or y`. -/
def orElse (x y : Checked Bool) : Checked Bool := x >>= fun b => if b then .ok true else y

theorem andThen_eq_true {x y : Checked Bool} :
    andThen x y = .ok true ↔ x = .ok true ∧ y = .ok true := by
  cases x with
  | error e => simp [andThen, bind, Except.bind]
  | ok b => cases b <;> simp [andThen, bind, Except.bind]

/-! ## §3 The standard library -/

/-- What `datetime.fromisoformat` reads, in microseconds from the beginning of year 1: a wall
clock without an offset, or an instant in UTC. -/
inductive Datetime where
  | naive (wall : Int)
  | aware (instant : Int)
  deriving DecidableEq, Repr

/-- What the engine takes from the standard library. -/
structure Library where
  /-- `datetime.fromisoformat`; `none` is a `ValueError` -/
  fromisoformat : String → Option Datetime
  /-- `datetime.isoformat` of an instant in UTC; `none` is outside the years 1 to 9999 -/
  isoformat : Int → Option String
  /-- `int(s)` of a text; `none` is a `ValueError` -/
  intOfText : String → Option Int
  /-- `re.compile(pattern, re.IGNORECASE).search(text) is not None` -/
  search : String → String → Bool
  /-- `str(value)` of a value that is no text -/
  strOther : Json → String
  /-- `hashlib.sha256(text.encode("utf-8")).hexdigest()` -/
  sha256 : String → String
  /-- `hmac.new(key, text.encode("utf-8"), hashlib.sha256).hexdigest()` -/
  hmac : String → String → String
  /-- `str.isprintable` of a character outside ASCII -/
  isPrintable : Char → Bool

namespace Library

variable (lib : Library)

/-- `str(value)`. -/
def str : Json → String
  | .str s => s
  | v => lib.strOther v

/-- `sha256_json(value)`. -/
def sha256Json (value : Json) : String := lib.sha256 (canonicalJson value)

/-- What the case contract takes from it. -/
def contract (F : Type) [EngineFloat F] : Replay.Library where
  fromisoformat s := (lib.fromisoformat s).map fun
    | .naive _ => .naive
    | .aware instant => .aware instant
  floatValue text := EngineFloat.exact (EngineFloat.ofText text : F)
  isPrintable := lib.isPrintable
  reprOther := lib.strOther

end Library

/-! ## §4 Conversions -/

/-- `mapping[name]`. -/
def item (mapping : Dict) (name : String) : Checked Json :=
  match mapping.lookup name with
  | some v => .ok v
  | none => .error (.keyError name)

section Conversions

variable (F : Type) [EngineFloat F]

/-- `float(value)`. -/
def floatOf : Json → Checked F
  | .bool b => .ok (EngineFloat.lit (if b then 1 else 0))
  | .int n => match EngineFloat.ofInt n with
    | some x => .ok x
    | none => .error .overflowError
  | .float text => .ok (EngineFloat.ofText text)
  | .str s => match EngineFloat.parse s with
    | some x => .ok x
    | none => .error .valueError
  | .null | .arr _ | .obj _ => .error .typeError

/-- `int(x)` of a rational: the fraction is dropped. -/
def truncate (q : ℚ) : Int := if 0 ≤ q then q.floor else q.ceil

/-- `int(value)`. -/
def intOf (lib : Library) : Json → Checked Int
  | .bool b => .ok (if b then 1 else 0)
  | .int n => .ok n
  | .float text => match EngineFloat.exact (EngineFloat.ofText text : F) with
    | some q => .ok (truncate q)
    | none => .error .valueError
  | .str s => match lib.intOfText s with
    | some n => .ok n
    | none => .error .valueError
  | .null | .arr _ | .obj _ => .error .typeError

/-- `bool(value)`; NaN is true. -/
def truth : Json → Bool
  | .null => false
  | .bool b => b
  | .int n => n != 0
  | .float text => EngineFloat.exact (EngineFloat.ofText text : F) != some 0
  | .str s => s != ""
  | .arr xs => !xs.isEmpty
  | .obj fields => !fields.isEmpty

/-- `list(value)`. -/
def listOf : Json → Checked (List Json)
  | .arr xs => .ok xs
  | .str s => .ok (s.toList.map fun c => .str (String.singleton c))
  | .obj fields => .ok (fields.map fun field => .str field.1)
  | .null | .bool _ | .int _ | .float _ => .error .typeError

/-- The value can be a member of a set. -/
def hashable : Json → Bool
  | .arr _ | .obj _ => false
  | .null | .bool _ | .int _ | .float _ | .str _ => true

/-- `set(values)`. -/
def setOf (values : List Json) : Checked (List Json) :=
  if values.all hashable then .ok values else .error .typeError

/-- The number that a value is. -/
def numberOf : Json → Option ℚ
  | .bool b => some (if b then 1 else 0)
  | .int n => some n
  | .float text => EngineFloat.exact (EngineFloat.ofText text : F)
  | .null | .str _ | .arr _ | .obj _ => none

/-- Both values are numbers, and they are one number. -/
def sameNumber (v w : Json) : Bool :=
  match numberOf F v, numberOf F w with
  | some p, some q => decide (p = q)
  | _, _ => false

/-- `v == w` or `v is w` of values that can be members of a set; two floats that are no numbers
are one where their texts are. -/
def sameMember (v w : Json) : Bool :=
  match v, w with
  | .null, .null => true
  | .str s, .str t => s == t
  | .float s, .float t => s == t || sameNumber F (.float s) (.float t)
  | v, w => sameNumber F v w

/-- `value in values` of a set. -/
def memberOf (value : Json) (values : List Json) : Bool := values.any fun w => sameMember F value w

/-- `set(xs).issubset(ys)`. -/
def subsetOf (xs ys : List Json) : Bool := xs.all fun x => memberOf F x ys

/-- `set(xs) & ys`. -/
def meets (xs ys : List Json) : Bool := xs.any fun x => memberOf F x ys

theorem sameMember_self {v : Json} (h : hashable v = true) : sameMember F v v = true := by
  cases v with
  | null => rfl
  | bool b => exact decide_eq_true rfl
  | int n => exact decide_eq_true rfl
  | float text =>
    show (text == text || sameNumber F (.float text) (.float text)) = true
    rw [beq_self_eq_true, Bool.true_or]
  | str s => exact beq_self_eq_true s
  | arr xs => cases h
  | obj fields => cases h

theorem sameMember_str {s : String} {w : Json} : sameMember F (.str s) w = true ↔ w = .str s := by
  cases w with
  | str t =>
    show (s == t) = true ↔ _
    rw [beq_iff_eq, Json.str.injEq, eq_comm]
  | null | bool | int | float | arr | obj => exact ⟨fun h => (by cases h), fun h => (by cases h)⟩

/-- Of texts, a set has the members of the list. -/
theorem memberOf_str {s : String} {values : List Json} :
    memberOf F (.str s) values = true ↔ .str s ∈ values := by
  simp only [memberOf, List.any_eq_true, sameMember_str]
  constructor
  · rintro ⟨w, hw, rfl⟩
    exact hw
  · intro h
    exact ⟨_, h, rfl⟩

/-- A set is a subset of itself. -/
theorem subsetOf_self {xs : List Json} (h : xs.all hashable = true) : subsetOf F xs xs = true := by
  refine List.all_eq_true.mpr fun x hx => ?_
  have hself : sameMember F x x = true := sameMember_self F (List.all_eq_true.mp h x hx)
  exact List.any_eq_true.mpr ⟨x, hx, hself⟩

end Conversions

/-! ## §5 Exact rationals -/

namespace ExactEngineFloat

/-- The number with these decimal digits. -/
def digits (cs : List Char) : ℚ :=
  cs.foldl (fun n c => 10 * n + ((c.toNat - '0'.toNat : Nat) : ℚ)) 0

/-- The number that the characters of a decimal text without a sign write. -/
def ofUnsigned (cs : List Char) : ℚ :=
  let fraction := (cs.dropWhile (· ≠ '.')).drop 1
  digits (cs.takeWhile (· ≠ '.')) + digits fraction / 10 ^ fraction.length

/-- The number that a decimal text writes. -/
def ofDecimal (text : String) : ℚ :=
  match text.toList with
  | '-' :: cs => -ofUnsigned cs
  | cs => ofUnsigned cs

/-- The decimal text of a multiple of `1 / 100000000`. -/
def repr (x : ℚ) : String :=
  let n := (x * 100000000).floor
  let digit := fun i => Char.ofNat (48 + n.natAbs / 10 ^ (7 - i) % 10)
  let fraction := (((List.range 8).map digit).reverse.dropWhile (· = '0')).reverse
  String.ofList ((if n < 0 then ['-'] else []) ++ (toString (n.natAbs / 100000000)).toList ++ '.' ::
    (if fraction = [] then ['0'] else fraction))

/-- The first terms of the exponential series. -/
def expSeries (x : ℚ) : ℚ :=
  ((List.range 40).foldl (fun (sum : ℚ × ℚ) k => (sum.1 + sum.2, sum.2 * x / (k + 1))) (0, 1)).1

/-- The nearest multiple of `1 / 100000000`, the even one of two. -/
def round8 (x : ℚ) : ℚ := ExactFloat.round6 (x * 100) / 100

instance engineFloat : EngineFloat ℚ where
  ofInt n := some n
  ratio n m := n / m
  ofText := ofDecimal
  parse text := some (ofDecimal text)
  add x y := x + y
  sub x y := x - y
  mul x y := x * y
  div x y := x / y
  neg x := -x
  exp := expSeries
  le x y := decide (x ≤ y)
  lt x y := decide (x < y)
  fsum xs := some xs.sum
  round6 := ExactFloat.round6
  round8 := round8
  format2 := repr
  format3 := repr
  repr := repr
  exact x := some x

instance lawfulEngineFloat : LawfulEngineFloat ℚ where
  lt_iff x y p q hx hy := by
    cases hx
    cases hy
    exact decide_eq_true_iff
  le_iff x y p q hx hy := by
    cases hx
    cases hy
    exact decide_eq_true_iff
  le_self x y _ := ⟨decide_eq_true Rat.le_refl, decide_eq_true Rat.le_refl⟩
  le_trans x y z hxy hyz := decide_eq_true ((of_decide_eq_true hxy).trans (of_decide_eq_true hyz))
  le_total x y _ _ := Rat.le_total.imp decide_eq_true decide_eq_true
  lt_iff_le_not_le x y := by
    show decide (x < y) = true ↔ decide (x ≤ y) = true ∧ decide (y ≤ x) = false
    rw [decide_eq_true_iff, decide_eq_true_iff, decide_eq_false_iff_not]
    exact Rat.lt_iff_le_not_ge x y
  eq_of_le x y q _ _ hxy hyx := Rat.le_antisymm (of_decide_eq_true hxy) (of_decide_eq_true hyx)
  exact_lit n _ := by
    show some ((n : ℚ) / (1 : Int)) = some (n : ℚ)
    rw [Int.cast_one, div_one]
  exact_ofInt n _ := ⟨n, rfl, rfl⟩
  ofInt_exact n x q hx hq _ := by
    cases hx
    cases hq
    rfl
  nan_neg x h := absurd (Rat.le_refl) (of_decide_eq_false h)
  nan_exp x h := absurd (Rat.le_refl) (of_decide_eq_false h)
  nan_add x y h := absurd (Rat.le_refl) (of_decide_eq_false h)
  nan_div x y h := absurd (Rat.le_refl) (of_decide_eq_false h)
  nan_round8 x h := absurd (Rat.le_refl) (of_decide_eq_false h)
  le_self_of_repr x _ := decide_eq_true Rat.le_refl

end ExactEngineFloat

end DecisionFirewall.Engine
