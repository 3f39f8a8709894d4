import Mathlib

/-!
# Sorting by a Key

A stable sort by a key. Where no two elements have one key, the result does not depend on the
order of the elements.

- §1 sorts
- §2 maps that may fail
-/

namespace DecisionFirewall.Lib

/-! ## §1 Sorts -/

section Sorts

variable {α κ : Type} [LinearOrder κ] (key : α → κ)

/-- `sorted(xs, key=key)`. -/
def sortBy (xs : List α) : List α := xs.mergeSort fun a b => decide (key a ≤ key b)

variable {key}

theorem sortBy_perm (xs : List α) : (sortBy key xs).Perm xs := List.mergeSort_perm _ _

theorem pairwise_sortBy (xs : List α) : (sortBy key xs).Pairwise fun a b => key a ≤ key b := by
  have h : (sortBy key xs).Pairwise fun a b => decide (key a ≤ key b) = true := by
    apply List.pairwise_mergeSort
    · intro a b c hab hbc
      exact decide_eq_true ((of_decide_eq_true hab).trans (of_decide_eq_true hbc))
    · intro a b
      simpa using le_total (key a) (key b)
  exact h.imp of_decide_eq_true

/-- A sorted list stays as it is. -/
theorem sortBy_of_pairwise {xs : List α} (h : xs.Pairwise fun a b => key a ≤ key b) :
    sortBy key xs = xs :=
  List.mergeSort_of_pairwise (h.imp decide_eq_true)

/-- Elements with different keys have one order. -/
theorem sortBy_eq_of_perm {xs ys : List α} (hperm : xs.Perm ys) (hkeys : (xs.map key).Nodup) :
    sortBy key xs = sortBy key ys := by
  have hsorted : (sortBy key xs).Perm (sortBy key ys) :=
    (sortBy_perm xs).trans (hperm.trans (sortBy_perm ys).symm)
  refine hsorted.eq_of_pairwise ?_ (pairwise_sortBy xs) (pairwise_sortBy ys)
  intro a b ha hb hab hba
  have ha' : a ∈ xs := (sortBy_perm xs).mem_iff.mp ha
  have hb' : b ∈ xs := hperm.mem_iff.mpr ((sortBy_perm ys).mem_iff.mp hb)
  exact List.inj_on_of_nodup_map hkeys ha' hb' (le_antisymm hab hba)

theorem sortBy_pair {a b : α} (h : key b < key a) : sortBy key [a, b] = [b, a] := by
  have hkeys : ([a, b].map key).Nodup := by simp [h.ne']
  have hsorted : [b, a].Pairwise fun x y => key x ≤ key y := by simp [h.le]
  rw [sortBy_eq_of_perm (List.Perm.swap b a []) hkeys, sortBy_of_pairwise hsorted]

/-- Sorting images sorts what they are images of. -/
theorem sortBy_map {β : Type} {f : β → α} (xs : List β) :
    sortBy key (xs.map f) = (sortBy (fun x => key (f x)) xs).map f := by
  refine (List.map_mergeSort ?_).symm
  intro a _ b _
  rfl

/-- Related elements are at one place in lists that are sorted by what they have in common. -/
theorem forall₂_sortBy {β : Type} {R : α → β → Prop} {key' : β → κ} {xs : List α} {ys : List β}
    (h : List.Forall₂ R xs ys) (hkey : ∀ x y, R x y → key x = key' y) :
    List.Forall₂ R (sortBy key xs) (sortBy key' ys) := by
  -- both lists are projections of a list of related pairs, whose keys agree
  obtain ⟨pairs, rfl, rfl⟩ : ∃ pairs : List {pair : α × β // R pair.1 pair.2},
      pairs.map (fun pair => pair.1.1) = xs ∧ pairs.map (fun pair => pair.1.2) = ys := by
    induction h with
    | nil => exact ⟨[], rfl, rfl⟩
    | @cons x y xs ys hr _ ih =>
      obtain ⟨pairs, hxs, hys⟩ := ih
      refine ⟨⟨(x, y), hr⟩ :: pairs, ?_, ?_⟩
      · rw [List.map_cons, hxs]
      · rw [List.map_cons, hys]
  have hsame : (fun pair : {pair : α × β // R pair.1 pair.2} => key pair.1.1) =
      fun pair => key' pair.1.2 := by
    funext pair
    exact hkey _ _ pair.2
  rw [sortBy_map, sortBy_map, hsame]
  refine List.forall₂_map_left_iff.mpr (List.forall₂_map_right_iff.mpr ?_)
  exact List.forall₂_same.mpr fun pair _ => pair.2

end Sorts

/-! ## §2 Maps that may fail -/

section Maps

variable {α β : Type} {f : α → Option β} {xs xs' : List α} {ys : List β}

/-- A map succeeds where it does at every element. -/
theorem mapM_eq_some :
    xs.mapM f = some ys ↔ List.Forall₂ (fun x y => f x = some y) xs ys := by
  induction xs generalizing ys with
  | nil => simp [eq_comm]
  | cons x xs ih =>
    rw [List.mapM_cons]
    constructor
    · intro h
      obtain ⟨y, hy, h⟩ := Option.bind_eq_some_iff.mp h
      obtain ⟨rest, hrest, h⟩ := Option.bind_eq_some_iff.mp h
      cases h
      exact .cons hy (ih.mp hrest)
    · intro h
      cases h with
      | cons hy hrest =>
        refine Option.bind_eq_some_iff.mpr ⟨_, hy, ?_⟩
        exact Option.bind_eq_some_iff.mpr ⟨_, ih.mpr hrest, rfl⟩

theorem exists_of_mem_right {R : α → β → Prop} (h : List.Forall₂ R xs ys) {y : β} (hy : y ∈ ys) :
    ∃ x ∈ xs, R x y := by
  induction h with
  | nil => cases hy
  | cons hr _ ih =>
    rcases List.mem_cons.mp hy with rfl | hy
    · exact ⟨_, List.mem_cons_self, hr⟩
    · obtain ⟨x, hx, hxy⟩ := ih hy
      exact ⟨x, List.mem_cons_of_mem _ hx, hxy⟩

theorem mapM_congr {g : α → Option β} (h : ∀ x ∈ xs, f x = g x) : xs.mapM f = xs.mapM g := by
  induction xs with
  | nil => rfl
  | cons x xs ih =>
    obtain ⟨hx, hxs⟩ := List.forall_mem_cons.mp h
    rw [List.mapM_cons, List.mapM_cons, hx, ih hxs]

/-- Elements in another order have their images in another order. -/
theorem mapM_perm (hperm : xs'.Perm xs) (h : xs.mapM f = some ys) :
    ∃ ys', xs'.mapM f = some ys' ∧ ys'.Perm ys := by
  obtain ⟨ys', himages, hys⟩ := List.perm_comp_forall₂ hperm (mapM_eq_some.mp h)
  exact ⟨ys', mapM_eq_some.mpr himages, hys⟩

/-- A map that may raise succeeds where it does at every element. -/
theorem mapM_eq_ok {E : Type} {g : α → Except E β} :
    xs.mapM g = .ok ys ↔ List.Forall₂ (fun x y => g x = .ok y) xs ys := by
  induction xs generalizing ys with
  | nil =>
    show Except.ok [] = Except.ok ys ↔ _
    rw [Except.ok.injEq, List.forall₂_nil_left_iff, eq_comm]
  | cons x xs ih =>
    rw [List.mapM_cons]
    constructor
    · intro h
      cases hx : g x with
      | error e =>
        rw [hx] at h
        cases h
      | ok y =>
        cases hrest : xs.mapM g with
        | error e =>
          rw [hx, hrest] at h
          cases h
        | ok rest =>
          rw [hx, hrest] at h
          cases h
          exact .cons hx (ih.mp hrest)
    · intro h
      cases h with
      | cons hy hrest =>
        rw [hy, ih.mpr hrest]
        rfl

end Maps

end DecisionFirewall.Lib
