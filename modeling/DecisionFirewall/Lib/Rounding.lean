import Mathlib

/-!
# Rounding to an Integer

Half a unit goes to the even neighbour.
-/

namespace DecisionFirewall.Lib

variable {K : Type} [Field K] [LinearOrder K] [FloorRing K]

/-- `round(x)`: to the even neighbour where both are as close. -/
def roundHalfEven (x : K) : Int :=
  let below := ⌊x⌋
  if x - below < below + 1 - x then below
  else if below + 1 - x < x - below then below + 1
  else if below % 2 = 0 then below
  else below + 1

/-- No integer is more than a half away. -/
theorem abs_roundHalfEven_sub_le [IsStrictOrderedRing K] (x : K) :
    |(roundHalfEven x : K) - x| ≤ 1 / 2 := by
  have hbelow := Int.floor_le x
  have habove := Int.lt_floor_add_one x
  unfold roundHalfEven
  dsimp only
  split_ifs with hless hmore heven
  · rw [abs_le]
    constructor <;> linarith
  · push_cast
    rw [abs_le]
    constructor <;> linarith
  · rw [abs_le]
    constructor <;> linarith
  · push_cast
    rw [abs_le]
    constructor <;> linarith

end DecisionFirewall.Lib
