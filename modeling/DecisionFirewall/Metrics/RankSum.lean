import DecisionFirewall.Lib.PairStatistic
import DecisionFirewall.Metrics.Evaluation

/-!
# Ranks and the Pair Statistic

The loop over the groups of equal scores adds up ranks, and from their sum the ROC AUC is the
share of the pairs of a positive and a negative row that are in order (`rocAuc_eq`).

- §1 the loop
- §2 the rows of one class
- §3 the statistic
-/

namespace DecisionFirewall.Metrics

open Lib

section Ranks

variable {K : Type} [Field K] [LinearOrder K] [IsStrictOrderedRing K]

/-! ## §1 The loop -/

/-- What the rows add to the sum of ranks, with `below` rows under all of them. -/
def rankTerms (below : Nat) (field rows : List (K × Int)) : K :=
  (rows.map fun row => row.2 * (below + half K + wins row.1 (field.map Prod.fst))).sum

omit [LinearOrder K] [IsStrictOrderedRing K] in
theorem cast_labelSum (rows : List (K × Int)) :
    (labelSum rows : K) = (rows.map fun row => (row.2 : K)).sum := by
  simp [labelSum, Int.cast_list_sum, Function.comp_def]

omit [IsStrictOrderedRing K] in
/-- Rows of one rank. -/
theorem rankTerms_of_eq {below : Nat} {field rows : List (K × Int)} {rank : K}
    (h : ∀ row ∈ rows, below + half K + wins row.1 (field.map Prod.fst) = rank) :
    rankTerms below field rows = rank * labelSum rows := by
  rw [cast_labelSum, ← List.sum_map_mul_left, rankTerms]
  congr 1
  exact List.map_congr_left fun row hrow => by rw [h row hrow, mul_comm]

theorem rankTerms_congr {below below' : Nat} {field field' rows : List (K × Int)}
    (h : ∀ row ∈ rows, (below : K) + wins row.1 (field.map Prod.fst) =
      below' + wins row.1 (field'.map Prod.fst)) :
    rankTerms below field rows = rankTerms below' field' rows := by
  unfold rankTerms
  congr 1
  refine List.map_congr_left fun row hrow => ?_
  linear_combination (row.2 : K) * h row hrow

omit [Field K] [IsStrictOrderedRing K] in
/-- The rows behind a group of equal scores are above it. -/
theorem lt_of_mem_dropWhile {row other : K × Int} {rest : List (K × Int)}
    (hsorted : (row :: rest).Pairwise fun a b => a.1 ≤ b.1)
    (h : other ∈ rest.dropWhile fun r => decide (r.1 = row.1)) : row.1 < other.1 := by
  obtain ⟨hle, hrest⟩ := List.pairwise_cons.mp hsorted
  cases hdrop : rest.dropWhile fun r => decide (r.1 = row.1) with
  | nil =>
    rw [hdrop] at h
    cases h
  | cons first others =>
    have hfirst : first.1 ≠ row.1 := by
      have hhead := List.head_dropWhile_not (p := fun r : K × Int => decide (r.1 = row.1))
        (l := rest) (by rw [hdrop]; simp)
      simpa [hdrop] using hhead
    have hsub : (first :: others).Sublist rest := hdrop ▸ List.dropWhile_sublist _
    have hlt : row.1 < first.1 :=
      lt_of_le_of_ne (hle first (hsub.subset List.mem_cons_self)) hfirst.symm
    rw [hdrop] at h
    rcases List.mem_cons.mp h with rfl | hother
    · exact hlt
    · exact hlt.trans_le ((List.pairwise_cons.mp (hrest.sublist hsub)).1 other hother)

/-- The loop adds the rank of every row with a label. -/
theorem rankLoop_eq (index : Nat) (rankSum : K) (rows : List (K × Int))
    (hsorted : rows.Pairwise fun a b => a.1 ≤ b.1) :
    rankLoop index rankSum rows = rankSum + rankTerms index rows rows := by
  -- induction along the loop, one group of equal scores at a time
  fun_induction rankLoop index rankSum rows with
  | case1 index rankSum => simp [rankTerms]
  | case2 index rankSum row rest tied stop averageRank ih =>
    have hrest : tied ++ rest.dropWhile (fun r => decide (r.1 = row.1)) = rest :=
      List.takeWhile_append_dropWhile
    generalize hothers : rest.dropWhile (fun r => decide (r.1 = row.1)) = others at hrest ih ⊢
    have habove : ∀ other ∈ others, row.1 < other.1 :=
      fun other hother => lt_of_mem_dropWhile hsorted (hothers ▸ hother)
    have hgroup : ∀ r ∈ row :: tied, r.1 = row.1 :=
      List.forall_mem_cons.mpr ⟨rfl, fun r hr => by
        simpa using List.mem_takeWhile_imp (p := fun o : K × Int => decide (o.1 = row.1)) hr⟩
    have hfield : row :: rest = (row :: tied) ++ others := by rw [List.cons_append, hrest]
    have hwins (x : K) : wins x ((row :: rest).map Prod.fst) =
        wins x ((row :: tied).map Prod.fst) + wins x (others.map Prod.fst) := by
      rw [hfield, List.map_append, wins_append]
    have hlength : ((row :: tied).map Prod.fst).length = tied.length + 1 := by simp
    -- the rows of the group have one rank
    have hrank : ∀ r ∈ row :: tied,
        index + half K + wins r.1 ((row :: rest).map Prod.fst) = averageRank := by
      intro r hr
      have hequal : ∀ y ∈ (row :: tied).map Prod.fst, y = row.1 := List.forall_mem_map.mpr hgroup
      have hlower : ∀ y ∈ others.map Prod.fst, row.1 < y := List.forall_mem_map.mpr habove
      rw [hgroup r hr, hwins, wins_of_eq hequal, wins_of_lt hlower, hlength]
      simp only [averageRank, stop, half_eq]
      push_cast
      ring
    -- for the others the group is below them
    have hbelow : ∀ other ∈ others, (index : K) + wins other.1 ((row :: rest).map Prod.fst) =
        stop + wins other.1 (others.map Prod.fst) := by
      intro other hother
      have hlower : ∀ y ∈ (row :: tied).map Prod.fst, y < other.1 :=
        List.forall_mem_map.mpr fun r hr => (hgroup r hr).trans_lt (habove other hother)
      rw [hwins, wins_of_gt hlower, hlength]
      simp only [stop]
      push_cast
      ring
    have hsorted' : others.Pairwise fun a b => a.1 ≤ b.1 :=
      hsorted.sublist (hfield ▸ List.sublist_append_right _ _)
    rw [ih hsorted', ← rankTerms_congr hbelow, ← rankTerms_of_eq hrank, add_assoc]
    congr 1
    conv_rhs => rw [hfield]
    rw [rankTerms, rankTerms, rankTerms, ← hfield, ← List.sum_append, ← List.map_append, hfield]

/-! ## §2 The rows of one class -/

/-- The scores of the rows with this label. -/
def scoresOf (label : Int) (rows : List (K × Int)) : List K :=
  (rows.filter fun row => row.2 = label).map Prod.fst

/-- The pairs of a positive and a negative row in which the positive score is higher, and half
of those with one score, among all pairs. -/
def pairStatistic (rows : List (K × Int)) : K :=
  let positives := scoresOf 1 rows
  let negatives := scoresOf 0 rows
  (higherPairs positives negatives + half K * tiedPairs positives negatives) /
    (positives.length * negatives.length)

section Classes

variable {rows : List (K × Int)} (hbinary : ∀ row ∈ rows, row.2 = 0 ∨ row.2 = 1)

include hbinary

omit [IsStrictOrderedRing K] in
theorem wins_classes (x : K) :
    wins x (rows.map Prod.fst) = wins x (scoresOf 1 rows) + wins x (scoresOf 0 rows) := by
  induction rows with
  | nil => simp [scoresOf]
  | cons row rows ih =>
    obtain ⟨hrow, hrest⟩ := List.forall_mem_cons.mp hbinary
    rw [List.map_cons, wins_cons, ih hrest]
    rcases hrow with h | h
    · simp [scoresOf, h]
      ring
    · simp [scoresOf, h]
      ring

omit [LinearOrder K] [IsStrictOrderedRing K] in
theorem sum_weighted (f : K → K) :
    (rows.map fun row => row.2 * f row.1).sum = ((scoresOf 1 rows).map f).sum := by
  induction rows with
  | nil => simp [scoresOf]
  | cons row rows ih =>
    obtain ⟨hrow, hrest⟩ := List.forall_mem_cons.mp hbinary
    rw [List.map_cons, List.sum_cons, ih hrest]
    rcases hrow with h | h
    · simp [scoresOf, h]
    · simp [scoresOf, h]

omit [Field K] [LinearOrder K] [IsStrictOrderedRing K] in
theorem labelSum_binary : labelSum rows = (scoresOf 1 rows).length := by
  induction rows with
  | nil => simp [scoresOf, labelSum]
  | cons row rows ih =>
    obtain ⟨hrow, hrest⟩ := List.forall_mem_cons.mp hbinary
    have hcons : labelSum (row :: rows) = row.2 + labelSum rows := by simp [labelSum]
    rw [hcons, ih hrest]
    rcases hrow with h | h
    · simp [scoresOf, h]
    · simp [scoresOf, h]
      ring

omit [Field K] [LinearOrder K] [IsStrictOrderedRing K] in
theorem length_classes : rows.length = (scoresOf 1 rows).length + (scoresOf 0 rows).length := by
  induction rows with
  | nil => simp [scoresOf]
  | cons row rows ih =>
    obtain ⟨hrow, hrest⟩ := List.forall_mem_cons.mp hbinary
    have hcount := ih hrest
    rcases hrow with h | h
    · simp only [scoresOf, List.length_map] at hcount ⊢
      simp [h, hcount]
      omega
    · simp only [scoresOf, List.length_map] at hcount ⊢
      simp [h, hcount]
      omega

/-- The ranks of the positive rows: their own pairs, themselves and their wins. -/
theorem rankTerms_binary : rankTerms 0 rows rows =
    ((scoresOf 1 rows).length * ((scoresOf 1 rows).length + 1) / 2 : K) +
      pairWins (scoresOf 1 rows) (scoresOf 0 rows) := by
  have hterms : rankTerms 0 rows rows =
      ((scoresOf 1 rows).map fun x => 1 / 2 + wins x (scoresOf 1 rows) +
        wins x (scoresOf 0 rows)).sum := by
    rw [rankTerms, ← sum_weighted hbinary]
    congr 1
    refine List.map_congr_left fun row _ => ?_
    rw [wins_classes hbinary, half_eq]
    push_cast
    ring
  have hself := pairWins_self (scoresOf 1 rows)
  rw [pairWins] at hself
  rw [hterms, List.sum_map_add, List.sum_map_add, hself, pairWins, List.map_const',
    List.sum_replicate, nsmul_eq_mul]
  ring

end Classes

/-! ## §3 The statistic -/

omit [IsStrictOrderedRing K] in
theorem rankTerms_perm {rows rows' : List (K × Int)} (h : rows.Perm rows') :
    rankTerms 0 rows rows = rankTerms 0 rows' rows' := by
  have hwins (x : K) : wins x (rows.map Prod.fst) = wins x (rows'.map Prod.fst) :=
    wins_perm (h.map _)
  simp only [rankTerms, hwins]
  exact (h.map _).sum_eq

omit [Field K] [IsStrictOrderedRing K] in
theorem pairwise_ascending (rows : List (K × Int)) :
    (ascending rows).Pairwise fun a b => a.1 ≤ b.1 := by
  have h : (ascending rows).Pairwise fun a b => decide (a.1 ≤ b.1) = true :=
    List.pairwise_mergeSort
      (fun a b c hab hbc => decide_eq_true ((of_decide_eq_true hab).trans (of_decide_eq_true hbc)))
      (fun a b => by simpa using le_total a.1 b.1) rows
  exact h.imp of_decide_eq_true

/-- The loop on sorted rows. -/
theorem rankLoop_ascending (rows : List (K × Int)) :
    rankLoop 0 0 (ascending rows) = rankTerms 0 rows rows := by
  rw [rankLoop_eq 0 0 _ (pairwise_ascending rows), zero_add]
  exact rankTerms_perm (List.mergeSort_perm _ _)

omit [Field K] [LinearOrder K] [IsStrictOrderedRing K] in
/-- A class that occurs among the labels has rows. -/
theorem length_scoresOf_ne_zero {labels : List Int} {scores : List K}
    (hlength : labels.length = scores.length) {label : Int} (h : label ∈ labels) :
    (scoresOf label (scores.zip labels)).length ≠ 0 := by
  have hzip : (scores.zip labels).map Prod.snd = labels := List.map_snd_zip hlength.le
  rw [← hzip] at h
  obtain ⟨row, hrow, rfl⟩ := List.mem_map.mp h
  have hmem : row ∈ (scores.zip labels).filter fun r => decide (r.2 = row.2) :=
    List.mem_filter.mpr ⟨hrow, by simp⟩
  rw [scoresOf, List.length_map]
  exact List.length_pos_of_mem hmem |>.ne'

/-- Both rank loops compute the pair statistic, the second one of what it accepts. -/
theorem rocAuc_eq {labels : List Int} {scores : List K} (hlength : labels.length = scores.length)
    (hbinary : ∀ label ∈ labels, label = 0 ∨ label = 1) (hpositive : 1 ∈ labels)
    (hnegative : 0 ∈ labels) :
    rocAucUnchecked labels scores = pairStatistic (scores.zip labels) ∧
      rocAuc labels scores =
        (validate labels scores).map fun _ => pairStatistic (scores.zip labels) := by
  have hrows : ∀ row ∈ scores.zip labels, row.2 = 0 ∨ row.2 = 1 :=
    fun row hrow => hbinary row.2 (List.of_mem_zip hrow).2
  have hsum : labels.sum = ((scoresOf 1 (scores.zip labels)).length : Int) := by
    rw [← labelSum_binary hrows, labelSum, List.map_snd_zip hlength.le]
  have hcount : (labels.length : Int) = (scoresOf 1 (scores.zip labels)).length +
      (scoresOf 0 (scores.zip labels)).length := by
    have hzip : (scores.zip labels).length = labels.length := by simp [hlength]
    rw [← hzip, length_classes hrows]
    push_cast
    rfl
  have hpos := length_scoresOf_ne_zero hlength hpositive
  have hneg := length_scoresOf_ne_zero hlength hnegative
  have hstatistic : rankStatistic labels scores = pairStatistic (scores.zip labels) := by
    have hdifference : (labels.length : Int) - labels.sum =
        (scoresOf 0 (scores.zip labels)).length := by
      rw [hcount, hsum]
      ring
    unfold rankStatistic
    dsimp only
    rw [hdifference, hsum, if_neg (by omega), rankLoop_ascending, rankTerms_binary hrows,
      pairWins_eq]
    simp only [pairStatistic, Int.cast_natCast, half_eq]
    congr 1
    ring
  refine ⟨hstatistic, ?_⟩
  unfold rocAuc
  rw [hstatistic]
  cases validate labels scores <;> rfl

/-- A tie and a pair in order. -/
theorem rocAuc_eq_example : rocAucUnchecked [1, 0, 1] [(1 / 2 : ℚ), 1 / 2, 1] = 3 / 4 := by
  have h := (@rocAuc_eq ℚ _ _ _ [1, 0, 1] [1 / 2, 1 / 2, 1] rfl (by decide) (by decide)
    (by decide)).1
  rw [h]
  simp [pairStatistic, scoresOf, higherPairs, tiedPairs]
  norm_num

end Ranks

end DecisionFirewall.Metrics
