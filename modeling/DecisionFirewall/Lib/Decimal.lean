import DecisionFirewall.Lib.Rounding

/-!
# Decimal Numbers

Decimal numbers as a coefficient and an exponent, read from a text exactly, and the quotient of
two counts rounded to twenty-eight digits. The quotient of counts up to a hundred thousand is
above a number of at most seventeen digits exactly where the ratio is (`lt_quotient_iff`).

- §1 numbers and their texts
- §2 quotients
- §3 comparisons
-/

namespace DecisionFirewall.Lib

/-! ## §1 Numbers and their texts -/

/-- A finite decimal number. -/
structure Decimal where
  coefficient : Int
  exponent : Int
  deriving DecidableEq, Repr

namespace Decimal

def value (d : Decimal) : ℚ := d.coefficient * 10 ^ d.exponent

def ofInt (n : Int) : Decimal := ⟨n, 0⟩

/-- The digits behind a sign. -/
def signed (cs : List Char) : Bool × List Char :=
  match cs with
  | '-' :: cs => (true, cs)
  | '+' :: cs => (false, cs)
  | cs => (false, cs)

def digitsValue (cs : List Char) : Nat := Nat.ofDigitChars 10 cs 0

/-- `[eE][-+]?[0-9]+`, or nothing. -/
def exponentOf : List Char → Option Int
  | [] => some 0
  | c :: cs =>
    let (negative, digits) := signed cs
    if (c = 'e' ∨ c = 'E') ∧ digits ≠ [] ∧ digits.all Char.isDigit then
      some (if negative then -digitsValue digits else digitsValue digits)
    else none

/-- `Decimal(text)` of the text of a finite number; `none` is an `InvalidOperation`. -/
def ofText (text : String) : Option Decimal := do
  let (negative, cs) := signed text.toList
  let whole := cs.takeWhile Char.isDigit
  let rest := cs.dropWhile Char.isDigit
  let (fraction, rest) := match rest with
    | '.' :: rest => (rest.takeWhile Char.isDigit, rest.dropWhile Char.isDigit)
    | rest => ([], rest)
  let exponent ← exponentOf rest
  if whole ++ fraction = [] then none
  else
    let coefficient : Int := digitsValue (whole ++ fraction)
    some ⟨if negative then -coefficient else coefficient, exponent - fraction.length⟩

/-! ## §2 Quotients -/

/-- The places behind the point at which the quotient has twenty-eight digits. -/
def places (count total : Nat) : Nat :=
  let shift := 28 + Nat.log 10 total - Nat.log 10 count
  if 10 ^ 28 * total ≤ count * 10 ^ shift then shift - 1 else shift

/-- `Decimal(count) / Decimal(total)` of a count that is at most the total, in the context of
the module: twenty-eight digits, and half a unit goes to the even neighbour. The zeros at the
end are kept. -/
def quotient (count total : Nat) : Decimal :=
  if count = 0 then ⟨0, 0⟩
  else
    ⟨roundHalfEven ((count * 10 ^ places count total : ℚ) / total), -places count total⟩

/-- The quotient has twenty-eight digits before it is rounded. -/
theorem places_spec {count total : Nat} (hcount : 0 < count) (hle : count ≤ total) :
    10 ^ 27 * total ≤ count * 10 ^ places count total ∧
      count * 10 ^ places count total < 10 ^ 28 * total := by
  have hlog : Nat.log 10 count ≤ Nat.log 10 total := Nat.log_mono_right hle
  have hcountLow := Nat.pow_log_le_self 10 hcount.ne'
  have hcountHigh := Nat.lt_pow_succ_log_self (by norm_num : 1 < 10) count
  have htotalLow := Nat.pow_log_le_self 10 (hcount.trans_le hle).ne'
  have htotalHigh := Nat.lt_pow_succ_log_self (by norm_num : 1 < 10) total
  unfold places
  dsimp only
  generalize Nat.log 10 count = a at *
  generalize Nat.log 10 total = b at *
  obtain ⟨j, rfl⟩ := Nat.exists_eq_add_of_le hlog
  have hshift : 28 + (a + j) - a = 28 + j := by omega
  rw [hshift]
  have hlow : 10 ^ 27 * total ≤ count * 10 ^ (28 + j) := by
    calc 10 ^ 27 * total ≤ 10 ^ 27 * 10 ^ (a + j + 1) := Nat.mul_le_mul_left _ htotalHigh.le
      _ = 10 ^ a * 10 ^ (28 + j) := by ring
      _ ≤ count * 10 ^ (28 + j) := Nat.mul_le_mul_right _ hcountLow
  have hhigh : count * 10 ^ (28 + j) < 10 ^ 29 * total := by
    calc count * 10 ^ (28 + j) < 10 ^ (a + 1) * 10 ^ (28 + j) := by
          exact Nat.mul_lt_mul_of_pos_right hcountHigh (by positivity)
      _ = 10 ^ 29 * 10 ^ (a + j) := by ring
      _ ≤ 10 ^ 29 * total := Nat.mul_le_mul_left _ htotalLow
  have hten : count * 10 ^ (28 + j) = 10 * (count * 10 ^ (27 + j)) := by ring
  -- one place less where there would be a digit too many
  split_ifs with hmany
  · rw [show 28 + j - 1 = 27 + j by omega]
    omega
  · omega

theorem value_quotient {count total : Nat} (hcount : count ≠ 0) :
    (quotient count total).value =
      roundHalfEven ((count * 10 ^ places count total : ℚ) / total) / 10 ^ places count total := by
  rw [quotient, if_neg hcount]
  simp only [value]
  rw [zpow_neg, zpow_natCast, ← div_eq_mul_inv]

/-! ## §3 Comparisons -/

/-- A number with few digits: a fraction with a power of ten. -/
def Short (d : Decimal) : Prop := ∃ m k : Nat, m < 10 ^ 17 ∧ d.value = m / 10 ^ k

/-- A number between zero and one with seventeen digits. -/
theorem short_of_digits {d : Decimal} (hdigits : d.coefficient.natAbs < 10 ^ 17)
    (hzero : 0 ≤ d.value) (hone : d.value ≤ 1) : d.Short := by
  obtain ⟨coefficient, exponent⟩ := d
  have hten : (0 : ℚ) < 10 ^ exponent := by positivity
  have hcoefficient : 0 ≤ coefficient := by
    have : (0 : ℚ) ≤ coefficient := by
      by_contra hneg
      exact absurd hzero (not_le.mpr (mul_neg_of_neg_of_pos (not_le.mp hneg) hten))
    exact_mod_cast this
  obtain ⟨m, rfl⟩ := Int.eq_ofNat_of_zero_le hcoefficient
  rcases Int.le_total 0 exponent with hexponent | hexponent
  · -- a number up to one with no place behind the point is zero or one
    obtain ⟨e, rfl⟩ := Int.eq_ofNat_of_zero_le hexponent
    have hvalue : ((m * 10 ^ e : Nat) : ℚ) ≤ 1 := by
      have h : ((m : Nat) : ℚ) * 10 ^ e ≤ 1 := by simpa [value] using hone
      exact_mod_cast h
    have hle : m * 10 ^ e ≤ 1 := by exact_mod_cast hvalue
    refine ⟨m * 10 ^ e, 0, by omega, ?_⟩
    simp [value]
  · obtain ⟨k, hk⟩ := Int.eq_ofNat_of_zero_le (Int.neg_nonneg.mpr hexponent)
    refine ⟨m, k, by simpa using hdigits, ?_⟩
    have hneg : exponent = -(k : Int) := by omega
    rw [value, hneg, zpow_neg, zpow_natCast, div_eq_mul_inv]
    rfl

/-- A rounded number is on the side of `y` on which the number is, where that is away from `y`. -/
theorem lt_round_iff {x y : ℚ} (h : x = y ∧ (∃ n : Int, y = n) ∨ 1 ≤ |x - y|) :
    y < roundHalfEven x ↔ y < x := by
  have hround := abs_le.mp (abs_roundHalfEven_sub_le x)
  rcases h with ⟨rfl, n, hn⟩ | h
  · -- an integer is its own neighbour
    rw [hn] at hround ⊢
    have hlow : ((-1 : Int) : ℚ) < ((roundHalfEven (n : ℚ) - n : Int) : ℚ) := by
      push_cast
      linarith
    have hhigh : ((roundHalfEven (n : ℚ) - n : Int) : ℚ) < ((1 : Int) : ℚ) := by
      push_cast
      linarith
    have hequal : roundHalfEven (n : ℚ) = n := by
      have := Int.cast_lt.mp hlow
      have := Int.cast_lt.mp hhigh
      omega
    rw [hequal]
  · rcases le_abs.mp h with h | h
    · exact ⟨fun _ => by linarith, fun _ => by linarith⟩
    · exact ⟨fun _ => by linarith, fun _ => by linarith⟩

/-- Scaled to twenty-eight digits, a ratio of counts is a short number or away from it. -/
theorem eq_or_away {m k count total s : Nat} (hm : m < 10 ^ 17) (htotal : 0 < total)
    (hbound : total ≤ 100000) (hlow : 10 ^ 27 * total ≤ count * 10 ^ s) :
    let x : ℚ := count * 10 ^ s / total
    let y : ℚ := m / 10 ^ k * 10 ^ s
    x = y ∧ (∃ n : Int, y = n) ∨ 1 ≤ |x - y| := by
  intro x y
  have hpos : (0 : ℚ) < total := by exact_mod_cast htotal
  have hx : (10 : ℚ) ^ 27 ≤ x := by
    rw [le_div_iff₀ hpos]
    exact_mod_cast hlow
  -- a small number is far below the ratio
  have hsmall (hy : y ≤ 10 ^ 26) : 1 ≤ |x - y| := by
    refine le_trans ?_ (le_abs_self _)
    linarith only [hx, hy]
  rcases Nat.lt_or_ge s k with hks | hks
  · refine .inr (hsmall ?_)
    obtain ⟨j, rfl⟩ := Nat.exists_eq_add_of_lt hks
    have hpow : (10 : ℚ) ^ (s + j + 1) = 10 ^ s * 10 ^ (j + 1) := by rw [← pow_add]; rfl
    have hy : y = m / 10 ^ (j + 1) := by
      simp only [y]
      rw [hpow]
      field_simp
    have hmle : (m : ℚ) ≤ 10 ^ 17 := by exact_mod_cast hm.le
    have hone : (1 : ℚ) ≤ 10 ^ (j + 1) := one_le_pow₀ (by norm_num)
    have hdiv : (m : ℚ) / 10 ^ (j + 1) ≤ m := div_le_self (Nat.cast_nonneg m) hone
    rw [hy]
    linarith only [hdiv, hmle]
  · obtain ⟨j, rfl⟩ := Nat.exists_eq_add_of_le hks
    have hy : y = ((m * 10 ^ j : Nat) : Int) := by
      simp only [y]
      rw [pow_add]
      push_cast
      field_simp
    by_cases hsmall' : m * 10 ^ j ≤ 10 ^ 26
    · refine .inr (hsmall ?_)
      rw [hy]
      exact_mod_cast hsmall'
    -- the number is a multiple of a large power of ten, and the ratio of that over the total
    have hj : 9 ≤ j := by
      by_contra hlt
      have hpow : 10 ^ j ≤ 10 ^ 8 := Nat.pow_le_pow_right (by norm_num) (by omega)
      have hprod : m * 10 ^ j ≤ 10 ^ 17 * 10 ^ 8 := Nat.mul_le_mul hm.le hpow
      omega
    have hdifference : x - y = 10 ^ j * ((count * 10 ^ k - m * total : Int) : ℚ) / total := by
      simp only [x]
      rw [hy]
      push_cast
      rw [pow_add]
      field_simp
    by_cases hzero : (count * 10 ^ k - m * total : Int) = 0
    · refine .inl ⟨?_, _, hy⟩
      rw [hzero] at hdifference
      have hsub : x - y = 0 := by rw [hdifference]; simp
      linarith only [hsub]
    · refine .inr ?_
      have hinteger : (1 : ℚ) ≤ |((count * 10 ^ k - m * total : Int) : ℚ)| := by
        exact_mod_cast Int.one_le_abs hzero
      have hpower : (10 : ℚ) ^ 9 ≤ 10 ^ j := pow_le_pow_right₀ (by norm_num) hj
      have htotalBound : (total : ℚ) ≤ 100000 := by exact_mod_cast hbound
      rw [hdifference, abs_div, abs_mul, abs_of_pos (by positivity : (0 : ℚ) < 10 ^ j),
        abs_of_pos hpos, le_div_iff₀ hpos, one_mul]
      calc (total : ℚ) ≤ 10 ^ 9 := by linarith only [htotalBound]
        _ ≤ 10 ^ j * 1 := by linarith only [hpower]
        _ ≤ 10 ^ j * |((count * 10 ^ k - m * total : Int) : ℚ)| := by gcongr

/-- The rounding of a quotient never takes it to the other side of a short number. -/
theorem lt_quotient_iff {d : Decimal} (hd : d.Short) {count total : Nat} (htotal : 0 < total)
    (hbound : total ≤ 100000) (hle : count ≤ total) :
    d.value < (quotient count total).value ↔ d.value < (count : ℚ) / total := by
  by_cases hcount : count = 0
  · simp [hcount, quotient, value]
  obtain ⟨m, k, hm, hvalue⟩ := hd
  have hlow := (places_spec (Nat.pos_of_ne_zero hcount) hle).1
  have haway := eq_or_away (k := k) hm htotal hbound hlow
  have hscale : (0 : ℚ) < 10 ^ places count total := by positivity
  have hratio : (count : ℚ) / total = count * 10 ^ places count total / total /
      10 ^ places count total := by field_simp
  rw [value_quotient hcount, hratio, hvalue, lt_div_iff₀ hscale, lt_div_iff₀ hscale]
  exact lt_round_iff haway

end Decimal

end DecisionFirewall.Lib
