import Mathlib

/-!
# Wins Over Pairs

How often the elements of one list are above those of another, a tie counting one half. The
rank of an element in a list, with those of equal elements averaged, is a half more than its
wins over the list; among themselves the elements of a list win half of their pairs
(`pairWins_self`).
-/

namespace DecisionFirewall.Lib

variable {K : Type} [Field K] [LinearOrder K]

/-- What a tie counts. -/
def half (K : Type) [Field K] : K := 1 / 2

omit [LinearOrder K] in
@[simp] theorem half_eq : half K = 1 / 2 := rfl

/-- `x` against `y`: one, a half or nothing. -/
def beats (x y : K) : K := if y < x then 1 else if y = x then half K else 0

/-- `x` against every element. -/
def wins (x : K) (ys : List K) : K := (ys.map (beats x)).sum

/-- Every element against every other. -/
def pairWins (xs ys : List K) : K := (xs.map fun x => wins x ys).sum

/-- The pairs in which the first element is the greater one. -/
def higherPairs (xs ys : List K) : Nat := (xs ×ˢ ys).countP fun pair => pair.2 < pair.1

/-- The pairs of equal elements. -/
def tiedPairs (xs ys : List K) : Nat := (xs ×ˢ ys).countP fun pair => pair.2 = pair.1

@[simp] theorem wins_nil (x : K) : wins x [] = 0 := rfl

@[simp] theorem wins_cons (x y : K) (ys : List K) : wins x (y :: ys) = beats x y + wins x ys := by
  simp [wins]

@[simp] theorem wins_append (x : K) (ys zs : List K) : wins x (ys ++ zs) = wins x ys + wins x zs := by
  simp [wins]

theorem wins_perm {x : K} {ys zs : List K} (h : ys.Perm zs) : wins x ys = wins x zs :=
  (h.map _).sum_eq

/-- An element wins a half against each equal one. -/
theorem wins_of_eq {x : K} {ys : List K} (h : ∀ y ∈ ys, y = x) : wins x ys = ys.length / 2 := by
  induction ys with
  | nil => simp
  | cons y ys ih =>
    obtain ⟨rfl, hrest⟩ := List.forall_mem_cons.mp h
    rw [wins_cons, ih hrest, List.length_cons, beats, if_neg (lt_irrefl _), if_pos rfl, half_eq]
    push_cast
    ring

theorem wins_of_gt {x : K} {ys : List K} (h : ∀ y ∈ ys, y < x) : wins x ys = ys.length := by
  induction ys with
  | nil => simp
  | cons y ys ih =>
    obtain ⟨hy, hrest⟩ := List.forall_mem_cons.mp h
    rw [wins_cons, ih hrest, List.length_cons, beats, if_pos hy]
    push_cast
    ring

theorem wins_of_lt {x : K} {ys : List K} (h : ∀ y ∈ ys, x < y) : wins x ys = 0 := by
  induction ys with
  | nil => rfl
  | cons y ys ih =>
    obtain ⟨hy, hrest⟩ := List.forall_mem_cons.mp h
    rw [wins_cons, ih hrest, beats, if_neg hy.not_gt, if_neg hy.ne', add_zero]

@[simp] theorem pairWins_nil (ys : List K) : pairWins [] ys = 0 := rfl

@[simp] theorem pairWins_cons (x : K) (xs ys : List K) :
    pairWins (x :: xs) ys = wins x ys + pairWins xs ys := by
  simp [pairWins]

/-- An element against itself and the others. -/
theorem pairWins_cons_right (x : K) (xs ys : List K) :
    pairWins ys (x :: xs) = (ys.map fun y => beats y x).sum + pairWins ys xs := by
  induction ys with
  | nil => simp
  | cons y ys ih =>
    simp only [pairWins_cons, wins_cons, List.map_cons, List.sum_cons, ih]
    ring

theorem wins_eq (x : K) (ys : List K) :
    wins x ys = (ys.countP fun y => y < x : Nat) + ((ys.countP fun y => y = x : Nat) : K) / 2 := by
  induction ys with
  | nil => simp
  | cons y ys ih =>
    rw [wins_cons, ih, List.countP_cons, List.countP_cons]
    unfold beats
    rcases lt_trichotomy y x with h | rfl | h
    · simp [h, h.ne]
      ring
    · simp
      ring
    · simp [h.ne', not_lt.mpr h.le]

/-- Wins are the pairs with the greater first element and half of the tied ones. -/
theorem pairWins_eq (xs ys : List K) :
    pairWins xs ys = higherPairs xs ys + (tiedPairs xs ys : K) / 2 := by
  induction xs with
  | nil => simp [higherPairs, tiedPairs]
  | cons x xs ih =>
    have hhigher : higherPairs (x :: xs) ys = (ys.countP fun y => y < x) + higherPairs xs ys := by
      simp [higherPairs, List.product_cons, List.countP_append, List.countP_map, Function.comp_def]
    have htied : tiedPairs (x :: xs) ys = (ys.countP fun y => y = x) + tiedPairs xs ys := by
      simp [tiedPairs, List.product_cons, List.countP_append, List.countP_map, Function.comp_def]
    rw [pairWins_cons, wins_eq, ih, hhigher, htied]
    push_cast
    ring

section Ordered

variable [IsStrictOrderedRing K]

theorem beats_add_beats (x y : K) : beats x y + beats y x = 1 := by
  unfold beats
  rcases lt_trichotomy x y with h | rfl | h
  · simp [h, h.ne', not_lt.mpr h.le]
  · simp
    norm_num
  · simp [h, h.ne', not_lt.mpr h.le]

/-- What one side does not win the other does. -/
theorem wins_add_sum (x : K) (ys : List K) :
    wins x ys + (ys.map fun y => beats y x).sum = ys.length := by
  induction ys with
  | nil => simp
  | cons y ys ih =>
    have hone := beats_add_beats x y
    simp only [wins_cons, List.map_cons, List.sum_cons, List.length_cons, Nat.cast_add,
      Nat.cast_one]
    linear_combination hone + ih

/-- Among themselves the elements of a list win half of their pairs. -/
theorem pairWins_self (xs : List K) : pairWins xs xs = xs.length * xs.length / 2 := by
  -- induction on the list; the first element wins or loses against each of the others
  induction xs with
  | nil => simp
  | cons x xs ih =>
    have hself : beats x x = 1 / 2 := by simp [beats]
    have hothers := wins_add_sum x xs
    rw [pairWins_cons, pairWins_cons_right, wins_cons, ih, hself]
    simp only [List.length_cons, Nat.cast_add, Nat.cast_one]
    linear_combination hothers

end Ordered

end DecisionFirewall.Lib
