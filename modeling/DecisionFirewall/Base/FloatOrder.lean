import DecisionFirewall.Base.Float

/-!
# Monotone Arithmetic

The order of Python's finite `float` values and the operations that keep it. A correctly
rounded operation is monotone where the exact one is, so the laws hold of `float` away
from overflow, and of exact rationals.

- §1 the order
- §2 the laws
- §3 exact rationals
-/

namespace DecisionFirewall

namespace PyFloat

/-! ## §1 The order -/

variable {F : Type} [PyFloat F]

/-- `x <= y`; no value is a NaN. -/
def Le (x y : F) : Prop := lt y x = false

/-- `x` lies between `0.0` and `1.0`. -/
def Unit (x : F) : Prop := Le (ofInt 0) x ∧ Le x (ofInt 1)

theorem ge_iff_le {x y : F} : ge x y = true ↔ Le y x := by
  simp [ge, Le]

end PyFloat

open PyFloat (Le)

/-! ## §2 The laws -/

/-- The order is a total preorder, and arithmetic on it is monotone: products of unit
values, sums of values that are not negative, quotients by a positive integer, and both
ways of rounding. -/
class MonotonePyFloat (F : Type) [PyFloat F] : Prop where
  lt_asymm : ∀ x y : F, PyFloat.lt x y = true → PyFloat.lt y x = false
  le_trans : ∀ x y z : F, Le x y → Le y z → Le x z
  ofInt_le : ∀ m n : Int, m ≤ n → Le (PyFloat.ofInt m : F) (PyFloat.ofInt n)
  ratio_nonneg : ∀ m d : Int, 0 ≤ m → 0 < d → Le (PyFloat.ofInt 0 : F) (PyFloat.ratio m d)
  ratio_le : ∀ m n d : Int, m ≤ n → 0 < d → Le (PyFloat.ratio m d : F) (PyFloat.ratio n d)
  mul_nonneg : ∀ w x : F, PyFloat.Unit w → PyFloat.Unit x → Le (PyFloat.ofInt 0) (PyFloat.mul w x)
  mul_le : ∀ w x y : F, PyFloat.Unit w → PyFloat.Unit x → PyFloat.Unit y → Le x y →
    Le (PyFloat.mul w x) (PyFloat.mul w y)
  add_nonneg : ∀ x y : F, Le (PyFloat.ofInt 0) x → Le (PyFloat.ofInt 0) y →
    Le (PyFloat.ofInt 0) (PyFloat.add x y)
  add_le : ∀ x x' y y' : F, Le (PyFloat.ofInt 0) x → Le (PyFloat.ofInt 0) y → Le x x' → Le y y' →
    Le (PyFloat.add x y) (PyFloat.add x' y')
  div_le : ∀ (x y : F) (d : Int), 0 < d → Le x y →
    Le (PyFloat.div x (PyFloat.ofInt d)) (PyFloat.div y (PyFloat.ofInt d))
  ceil_le : ∀ x y : F, Le x y → PyFloat.ceil x ≤ PyFloat.ceil y
  round6_le : ∀ x y : F, Le x y → Le (PyFloat.round6 x) (PyFloat.round6 y)

namespace PyFloat

variable {F : Type} [PyFloat F] [MonotonePyFloat F] {x x' y y' z : F}

theorem Le.trans (h : Le x y) (h' : Le y z) : Le x z := MonotonePyFloat.le_trans x y z h h'

theorem Le.refl (x : F) : Le x x := by
  unfold Le
  cases h : lt x x with
  | false => rfl
  | true => exact h ▸ MonotonePyFloat.lt_asymm x x h

theorem le_of_lt (h : lt x y = true) : Le x y := MonotonePyFloat.lt_asymm x y h

theorem min_le_left (x y : F) : Le (min x y) x := by
  unfold min
  split
  · exact le_of_lt ‹_›
  · exact .refl x

theorem min_le_right (x y : F) : Le (min x y) y := by
  unfold min
  split
  · exact .refl y
  · simpa [Le] using ‹¬ lt y x = true›

omit [MonotonePyFloat F] in
theorem le_min (hx : Le z x) (hy : Le z y) : Le z (min x y) := by
  unfold min
  split
  · exact hy
  · exact hx

theorem min_le_min (hx : Le x x') (hy : Le y y') : Le (min x y) (min x' y') :=
  le_min ((min_le_left x y).trans hx) ((min_le_right x y).trans hy)

theorem le_max_left (x y : F) : Le x (max x y) := by
  unfold max
  split
  · exact le_of_lt ‹_›
  · exact .refl x

theorem le_max_right (x y : F) : Le y (max x y) := by
  unfold max
  split
  · exact .refl y
  · simpa [Le] using ‹¬ lt x y = true›

omit [MonotonePyFloat F] in
theorem max_le (hx : Le x z) (hy : Le y z) : Le (max x y) z := by
  unfold max
  split
  · exact hy
  · exact hx

theorem max_le_max (hx : Le x x') (hy : Le y y') : Le (max x y) (max x' y') :=
  max_le (hx.trans (le_max_left x' y')) (hy.trans (le_max_right x' y'))

/-- Adding up from the left is monotone in every summand. -/
theorem foldl_add_le {xs ys : List F} (h : List.Forall₂ (fun x y => Le (ofInt 0) x ∧ Le x y) xs ys)
    (h₀ : Le (ofInt 0) x) (hx : Le x y) : Le (xs.foldl add x) (ys.foldl add y) := by
  induction h generalizing x y with
  | nil => exact hx
  | cons hab _ ih =>
    apply ih
    · exact MonotonePyFloat.add_nonneg _ _ h₀ hab.1
    · exact MonotonePyFloat.add_le _ _ _ _ h₀ hab.1 hx hab.2

theorem foldl_add_nonneg {xs : List F} (h : ∀ x ∈ xs, Le (ofInt 0) x) (h₀ : Le (ofInt 0) x) :
    Le (ofInt 0) (xs.foldl add x) := by
  induction xs generalizing x with
  | nil => exact h₀
  | cons a xs ih =>
    apply ih fun y hy => h y (List.mem_cons_of_mem _ hy)
    exact MonotonePyFloat.add_nonneg _ _ h₀ (h a List.mem_cons_self)

end PyFloat

/-! ## §3 Exact rationals -/

namespace ExactFloat

theorem le_iff {x y : ℚ} : Le x y ↔ x ≤ y := by
  show decide (y < x) = false ↔ x ≤ y
  simp

theorem unit_iff {x : ℚ} : PyFloat.Unit x ↔ 0 ≤ x ∧ x ≤ 1 := by
  show Le ((0 : Int) : ℚ) x ∧ Le x ((1 : Int) : ℚ) ↔ _
  rw [le_iff, le_iff]
  norm_num

/-- The nearest integer, the even one of two. -/
def nearest (y : ℚ) : Int :=
  if y - y.floor < 1 / 2 ∨ y - y.floor = 1 / 2 ∧ y.floor % 2 = 0 then y.floor else y.floor + 1

theorem round6_eq (x : ℚ) : round6 x = nearest (x * 1000000) / 1000000 := rfl

theorem nearest_mono {x y : ℚ} (h : x ≤ y) : nearest x ≤ nearest y := by
  have hfloor : x.floor ≤ y.floor := Rat.floor_monotone h
  rcases hfloor.lt_or_eq with hlt | heq
  · -- another integer lies between
    have hx : nearest x ≤ x.floor + 1 := by
      unfold nearest
      split_ifs <;> omega
    have hy : y.floor ≤ nearest y := by
      unfold nearest
      split_ifs <;> omega
    omega
  · unfold nearest
    rw [heq]
    split_ifs with hx hy hy
    · exact le_rfl
    · omega
    · -- the larger of two values with one floor rounds down, so does the smaller
      exfalso
      apply hx
      rcases hy with hy | ⟨hy, heven⟩
      · left
        linarith
      · rcases h.lt_or_eq with hlt | rfl
        · left
          linarith
        · exact .inr ⟨hy, heven⟩
    · exact le_rfl

theorem round6_mono {x y : ℚ} (h : x ≤ y) : round6 x ≤ round6 y := by
  rw [round6_eq, round6_eq]
  have hscaled : x * 1000000 ≤ y * 1000000 := by linarith
  have hint : (nearest (x * 1000000) : ℚ) ≤ nearest (y * 1000000) := by
    exact_mod_cast nearest_mono hscaled
  gcongr

instance monotonePyFloat : MonotonePyFloat ℚ where
  lt_asymm x y h := by
    have hlt : x < y := of_decide_eq_true h
    exact decide_eq_false (not_lt.mpr hlt.le)
  le_trans x y z h h' := le_iff.mpr ((le_iff.mp h).trans (le_iff.mp h'))
  ofInt_le m n h := le_iff.mpr (Int.cast_le.mpr h)
  ratio_nonneg m d hm hd := by
    apply le_iff.mpr
    show ((0 : Int) : ℚ) ≤ (m : ℚ) / (d : ℚ)
    have hm' : (0 : ℚ) ≤ m := by exact_mod_cast hm
    have hd' : (0 : ℚ) < d := by exact_mod_cast hd
    simpa using div_nonneg hm' hd'.le
  ratio_le m n d h hd := by
    apply le_iff.mpr
    show (m : ℚ) / (d : ℚ) ≤ (n : ℚ) / (d : ℚ)
    have hmn : (m : ℚ) ≤ n := by exact_mod_cast h
    have hd' : (0 : ℚ) < d := by exact_mod_cast hd
    gcongr
  mul_nonneg w x hw hx := by
    apply le_iff.mpr
    show ((0 : Int) : ℚ) ≤ w * x
    simpa using mul_nonneg (unit_iff.mp hw).1 (unit_iff.mp hx).1
  mul_le w x y hw _ _ h := le_iff.mpr (mul_le_mul_of_nonneg_left (le_iff.mp h) (unit_iff.mp hw).1)
  add_nonneg x y hx hy := by
    have hx' : ((0 : Int) : ℚ) ≤ x := le_iff.mp hx
    have hy' : ((0 : Int) : ℚ) ≤ y := le_iff.mp hy
    apply le_iff.mpr
    show ((0 : Int) : ℚ) ≤ x + y
    push_cast at hx' hy' ⊢
    linarith
  add_le x x' y y' _ _ h h' := le_iff.mpr (add_le_add (le_iff.mp h) (le_iff.mp h'))
  div_le x y d hd h := by
    apply le_iff.mpr
    show x / (d : ℚ) ≤ y / (d : ℚ)
    have hxy : x ≤ y := le_iff.mp h
    have hd' : (0 : ℚ) < d := by exact_mod_cast hd
    gcongr
  ceil_le x y h := Rat.ceil_le_iff.mpr ((le_iff.mp h).trans Rat.le_ceil)
  round6_le x y h := le_iff.mpr (round6_mono (le_iff.mp h))

end ExactFloat

end DecisionFirewall
