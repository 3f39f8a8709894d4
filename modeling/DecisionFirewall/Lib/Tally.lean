import Mathlib

/-!
# Tallies of a Loop

A loop over a list that keeps several accumulators is a left fold whose state has one
field for each. These rules read one field off the fold: a list that grows at the end,
or a set kept as a list without repetition.

- §1 optional entries and sets as lists
- §2 the field of a fold
-/

namespace DecisionFirewall.Lib.Tally

variable {α β σ : Type*}

/-! ## §1 Optional entries and sets as lists -/

/-- The entry that an iteration adds under a condition. -/
def flag (p : Prop) [Decidable p] (x : α) : List α := if p then [x] else []

@[simp] theorem mem_flag {p : Prop} [Decidable p] {x y : α} : y ∈ flag p x ↔ p ∧ y = x := by
  unfold flag
  split_ifs with h <;> simp [h]

theorem flag_eq_nil {p : Prop} [Decidable p] {x : α} : flag p x = [] ↔ ¬ p := by
  unfold flag
  split_ifs with h <;> simp [h]

theorem all_flag {p : Prop} [Decidable p] {x : α} {f : α → Bool} :
    (flag p x).all f = true ↔ (p → f x = true) := by
  unfold flag
  split_ifs with h <;> simp [h]

variable [DecidableEq α]

/-- `s.add(x)` for each `x`. -/
def addAll (s : List α) (xs : List α) : List α :=
  xs.foldl (fun s x => if x ∈ s then s else s ++ [x]) s

@[simp] theorem addAll_nil (s : List α) : addAll s [] = s := rfl

theorem addAll_cons (s : List α) (x : α) (xs : List α) :
    addAll s (x :: xs) = addAll (if x ∈ s then s else s ++ [x]) xs := rfl

theorem addAll_append (s xs ys : List α) : addAll s (xs ++ ys) = addAll (addAll s xs) ys := by
  simp [addAll, List.foldl_append]

@[simp] theorem mem_addAll {s xs : List α} {y : α} : y ∈ addAll s xs ↔ y ∈ s ∨ y ∈ xs := by
  induction xs generalizing s with
  | nil => simp
  | cons x xs ih =>
    rw [addAll_cons, ih]
    by_cases hx : x ∈ s
    · rw [if_pos hx]
      constructor
      · rintro (h | h)
        · exact .inl h
        · exact .inr (List.mem_cons_of_mem _ h)
      · rintro (h | h)
        · exact .inl h
        · rcases List.mem_cons.mp h with rfl | h
          · exact .inl hx
          · exact .inr h
    · rw [if_neg hx]
      simp [or_assoc]

/-- A set stays without repetition. -/
theorem nodup_addAll {s xs : List α} (h : s.Nodup) : (addAll s xs).Nodup := by
  induction xs generalizing s with
  | nil => exact h
  | cons x xs ih =>
    rw [addAll_cons]
    by_cases hx : x ∈ s
    · rw [if_pos hx]
      exact ih h
    · rw [if_neg hx]
      apply ih
      rw [List.nodup_append]
      exact ⟨h, List.nodup_singleton x, fun a ha b hb => by
        rw [List.mem_singleton] at hb
        exact fun hab => hx (hb ▸ hab ▸ ha)⟩

theorem perm_addAll_nil {xs ys : List α} (h : xs.Perm ys) : (addAll [] xs).Perm (addAll [] ys) := by
  refine (List.perm_ext_iff_of_nodup (nodup_addAll List.nodup_nil)
    (nodup_addAll List.nodup_nil)).mpr fun x => ?_
  simp only [mem_addAll, List.not_mem_nil, false_or, h.mem_iff]

/-! ## §2 The field of a fold -/

omit [DecidableEq α] in
/-- A field to which each iteration appends holds what all iterations appended. -/
theorem foldl_append_field {step : σ → β → σ} (field : σ → List α) {entry : β → List α}
    (h : ∀ s b, field (step s b) = field s ++ entry b) (s : σ) (bs : List β) :
    field (bs.foldl step s) = field s ++ bs.flatMap entry := by
  induction bs generalizing s with
  | nil => simp
  | cons b bs ih => rw [List.foldl_cons, ih, h, List.flatMap_cons, List.append_assoc]

/-- A set to which each iteration adds holds what all iterations added. -/
theorem foldl_addAll_field {step : σ → β → σ} (field : σ → List α) {entry : β → List α}
    (h : ∀ s b, field (step s b) = addAll (field s) (entry b)) (s : σ) (bs : List β) :
    field (bs.foldl step s) = addAll (field s) (bs.flatMap entry) := by
  induction bs generalizing s with
  | nil => simp
  | cons b bs ih => rw [List.foldl_cons, ih, h, List.flatMap_cons, addAll_append]

end DecisionFirewall.Lib.Tally
