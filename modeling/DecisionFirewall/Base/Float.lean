import DecisionFirewall.Base.JsonText

/-!
# Floating-Point Numbers

The operations on Python's finite `float` values that the assessments use. Nothing
below depends on how they round, so they are the operations of a class; the laws that
a result needs are those of a second class, and exact rationals are an instance of
both.
-/

namespace DecisionFirewall

/-! ## §1 Operations -/

/-- The finite values of `float` with the operations of the assessments. -/
class PyFloat (F : Type) where
  /-- `float(n)` -/
  ofInt : Int → F
  /-- `n / m` of two integers -/
  ratio : Int → Int → F
  /-- `x + y` -/
  add : F → F → F
  /-- `x - y` -/
  sub : F → F → F
  /-- `x * y` -/
  mul : F → F → F
  /-- `x / y` -/
  div : F → F → F
  /-- `x < y` -/
  lt : F → F → Bool
  /-- `math.isclose(x, y, abs_tol=1e-12)` -/
  isclose : F → F → Bool
  /-- `math.fsum(xs)` -/
  fsum : List F → F
  /-- `round(x, 6)` -/
  round6 : F → F
  /-- `math.ceil(x)` -/
  ceil : F → Int
  /-- the text `json.dumps` writes for `x` -/
  repr : F → String
  /-- `x == y` of the numbers with these texts -/
  eqText : String → String → Bool
  /-- `x == n` of the number with this text and an integer -/
  eqTextInt : String → Int → Bool

namespace PyFloat

variable {F : Type} [PyFloat F]

/-- `x >= y`; no value is a NaN. -/
def ge (x y : F) : Bool := !lt x y

/-- `min(x, y)`: the first argument unless the second is smaller. -/
def min (x y : F) : F := if lt y x then y else x

/-- `max(x, y)`: the first argument unless the second is larger. -/
def max (x y : F) : F := if lt x y then y else x

/-- `timedelta.total_seconds()` of a difference in microseconds. -/
def totalSeconds (microseconds : Int) : F := ratio microseconds 1000000

/-- The number as a member of an object. -/
def toJson (x : F) : Json := .float (repr x)

end PyFloat

/-! ## §2 Laws -/

/-- What the standard library promises of these operations. A text determines the number
it was written for. The seconds of a difference of instants are its microseconds divided
by a million and correctly rounded: they compare with a bound of at most a week as the
microseconds do, since the neighbours of such a bound are less than a microsecond away,
and they are a number that six decimals write in full. -/
class LawfulPyFloat (F : Type) [PyFloat F] : Prop where
  repr_injective : Function.Injective (PyFloat.repr : F → String)
  isFloatText_repr : ∀ x : F, Json.IsFloatText (PyFloat.repr x)
  totalSeconds_lt : ∀ n microseconds : Int, -604800 ≤ n → n ≤ 604800 →
    (PyFloat.lt (PyFloat.totalSeconds microseconds : F) (PyFloat.ofInt n) = true ↔
      microseconds < n * 1000000)
  lt_totalSeconds : ∀ n microseconds : Int, -604800 ≤ n → n ≤ 604800 →
    (PyFloat.lt (PyFloat.ofInt n) (PyFloat.totalSeconds microseconds : F) = true ↔
      n * 1000000 < microseconds)
  round6_totalSeconds : ∀ microseconds : Int,
    PyFloat.round6 (PyFloat.totalSeconds microseconds : F) = PyFloat.totalSeconds microseconds
  eqText_refl : ∀ text, PyFloat.eqText F text text = true
  eqText_totalSeconds : ∀ m n : Int,
    PyFloat.eqText F (PyFloat.repr (PyFloat.totalSeconds m : F))
      (PyFloat.repr (PyFloat.totalSeconds n : F)) = true →
    (PyFloat.totalSeconds m : F) = PyFloat.totalSeconds n

/-! ## §3 Exact rationals -/

namespace ExactFloat

/-- The nearest multiple of `1 / 1000000`, the even one of two. -/
def round6 (x : ℚ) : ℚ :=
  let y := x * 1000000
  let n := y.floor
  let rest := y - n
  (if rest < 1 / 2 ∨ rest = 1 / 2 ∧ n % 2 = 0 then n else n + 1 : Int) / 1000000

/-- A text for each rational. -/
def repr (x : ℚ) : String :=
  String.ofList ((toString x.num).toList ++ '.' :: (toString (x.den : Int)).toList)

instance pyFloat : PyFloat ℚ where
  ofInt n := n
  ratio n m := n / m
  add x y := x + y
  sub x y := x - y
  mul x y := x * y
  div x y := x / y
  lt x y := decide (x < y)
  isclose x y := decide (|x - y| ≤ 1 / 1000000000000 ∨
    |x - y| ≤ 1 / 1000000000 * |x| ∨ |x - y| ≤ 1 / 1000000000 * |y|)
  fsum xs := xs.sum
  round6 := round6
  ceil x := x.ceil
  repr := repr
  eqText s t := decide (s = t)
  eqTextInt s n := decide (s = repr n)

theorem toString_int_injective {n m : Int}
    (h : (toString n).toList = (toString m).toList) : n = m := by
  have hword := Json.word_inj (v := .int n) (w := .int m) trivial trivial trivial trivial h
  simpa using hword

theorem dot_notMem_toString (n : Int) : '.' ∉ (toString n).toList := by
  intro hdot
  have := Json.toList_toString_int n '.' hdot
  revert this
  decide

theorem repr_injective : Function.Injective repr := by
  intro x y h
  have hlist := String.ofList_inj.mp h
  -- the first dot ends the numerator on both sides
  obtain ⟨hnum, hrest⟩ := Lib.Reading.word_append_inj (D := (· = '.'))
    (fun c hc heq => dot_notMem_toString x.num (heq ▸ hc))
    (fun c hc heq => dot_notMem_toString y.num (heq ▸ hc)) (by simp) (by simp) hlist
  have hn : x.num = y.num := toString_int_injective hnum
  have hd : (x.den : Int) = y.den := toString_int_injective (List.cons.inj hrest).2
  exact Rat.ext hn (by exact_mod_cast hd)

theorem isFloatText_repr (x : ℚ) : Json.IsFloatText (repr x) := by
  have hint : ∀ n : Int, ∀ c ∈ (toString n).toList, c ∈ "0123456789+-.e".toList := by
    intro n c hc
    rcases Json.toList_toString_int n c hc with hdigit | rfl
    · simp only [Char.isDigit, ge_iff_le, Bool.and_eq_true, decide_eq_true_eq] at hdigit
      have hall : ∀ m, 48 ≤ m → m ≤ 57 → Char.ofNat m ∈ "0123456789+-.e".toList := by
        intro m h1 h2
        interval_cases m <;> decide
      rw [← Char.ofNat_toNat c]
      exact hall _ (UInt32.le_iff_toNat_le.mp hdigit.1) (UInt32.le_iff_toNat_le.mp hdigit.2)
    · decide
  refine ⟨?_, '.', by simp [repr], .inl rfl⟩
  intro c hc
  simp only [repr, String.toList_ofList, List.mem_append, List.mem_cons] at hc
  rcases hc with hc | rfl | hc
  · exact hint _ c hc
  · decide
  · exact hint _ c hc

theorem totalSeconds_lt (n m : Int) :
    (m : ℚ) / ((1000000 : Int) : ℚ) < (n : ℚ) ↔ m < n * 1000000 := by
  rw [div_lt_iff₀ (by norm_num)]
  norm_cast

theorem lt_totalSeconds (n m : Int) :
    (n : ℚ) < (m : ℚ) / ((1000000 : Int) : ℚ) ↔ n * 1000000 < m := by
  rw [lt_div_iff₀ (by norm_num)]
  norm_cast

theorem round6_totalSeconds (n : Int) :
    round6 ((n : ℚ) / ((1000000 : Int) : ℚ)) = (n : ℚ) / ((1000000 : Int) : ℚ) := by
  have hscale : (n : ℚ) / ((1000000 : Int) : ℚ) * 1000000 = n := by
    push_cast
    field_simp
  simp only [round6, hscale]
  rw [if_pos (.inl (by simp))]
  simp

instance lawfulPyFloat : LawfulPyFloat ℚ where
  repr_injective := repr_injective
  isFloatText_repr := isFloatText_repr
  totalSeconds_lt n m _ _ := decide_eq_true_iff.trans (totalSeconds_lt n m)
  lt_totalSeconds n m _ _ := decide_eq_true_iff.trans (lt_totalSeconds n m)
  round6_totalSeconds := round6_totalSeconds
  eqText_refl _ := decide_eq_true rfl
  eqText_totalSeconds _ _ h := repr_injective (of_decide_eq_true h)

end ExactFloat

end DecisionFirewall
