import DecisionFirewall.Metrics.RankSum

/-!
# Metrics and the Order of the Rows

Rows are looked at in the order of their scores or bin by bin. The sort of the average
precision is stable, so that rows with one score but different labels are counted in the order
in which they are given; every other number depends on the rows alone.

- §1 reordered rows
- §2 average precision
- §3 bins
- §4 the report
-/

namespace DecisionFirewall.Metrics

open Lib

section Order

variable {K : Type} [Field K] [LinearOrder K] [IsStrictOrderedRing K]

/-! ## §1 Reordered rows -/

/-- One permutation of both lists. -/
structure Reordered (labels : List Int) (scores : List K) (labels' : List Int)
    (scores' : List K) : Prop where
  length : labels.length = scores.length
  length' : labels'.length = scores'.length
  rows : (scores.zip labels).Perm (scores'.zip labels')

/-- No score has rows of both labels. -/
def Unmixed (labels : List Int) (scores : List K) : Prop :=
  ∀ score, ¬ ((score, 1) ∈ scores.zip labels ∧ (score, 0) ∈ scores.zip labels)

section Rows

variable {labels labels' : List Int} {scores scores' : List K}

omit [Field K] [LinearOrder K] [IsStrictOrderedRing K] in
theorem Reordered.perm_labels (h : Reordered labels scores labels' scores') : labels.Perm labels' := by
  have hperm := h.rows.map Prod.snd
  rwa [List.map_snd_zip h.length.le, List.map_snd_zip h.length'.le] at hperm

omit [Field K] [LinearOrder K] [IsStrictOrderedRing K] in
theorem Reordered.perm_scores (h : Reordered labels scores labels' scores') : scores.Perm scores' := by
  have hperm := h.rows.map Prod.fst
  rwa [List.map_fst_zip h.length.ge, List.map_fst_zip h.length'.ge] at hperm

omit [IsStrictOrderedRing K] in
/-- Validation looks at the lists only. -/
theorem validate_reordered (h : Reordered labels scores labels' scores') :
    validate labels scores = validate labels' scores' := by
  have hempty : labels = [] ↔ labels' = [] := by
    rw [← List.length_eq_zero_iff, ← List.length_eq_zero_iff, h.perm_labels.length_eq]
  have hlabels : (∃ label ∈ labels, label ≠ 0 ∧ label ≠ 1) ↔
      ∃ label ∈ labels', label ≠ 0 ∧ label ≠ 1 := by
    simp only [h.perm_labels.mem_iff]
  have hscores : (∃ score ∈ scores, ¬ (0 ≤ score ∧ score ≤ 1)) ↔
      ∃ score ∈ scores', ¬ (0 ≤ score ∧ score ≤ 1) := by
    simp only [h.perm_scores.mem_iff]
  unfold validate
  simp only [h.length, h.length', ne_eq, not_true_eq_false, false_or, hempty, hlabels, hscores]

theorem rankStatistic_reordered (h : Reordered labels scores labels' scores') :
    rankStatistic labels scores = rankStatistic labels' scores' := by
  unfold rankStatistic
  rw [rankLoop_ascending, rankLoop_ascending, rankTerms_perm h.rows, h.perm_labels.sum_eq,
    h.perm_labels.length_eq]

theorem rocAuc_reordered (h : Reordered labels scores labels' scores') :
    rocAuc labels scores = rocAuc labels' scores' := by
  unfold rocAuc
  rw [validate_reordered h, rankStatistic_reordered h]

/-! ## §2 Average precision -/

omit [Field K] [IsStrictOrderedRing K] in
theorem pairwise_descending (rows : List (K × Int)) :
    (descending rows).Pairwise fun a b => b.1 ≤ a.1 := by
  have h : (descending rows).Pairwise fun a b => decide (b.1 ≤ a.1) = true :=
    List.pairwise_mergeSort
      (fun a b c hab hbc => decide_eq_true ((of_decide_eq_true hbc).trans (of_decide_eq_true hab)))
      (fun a b => by simpa using le_total b.1 a.1) rows
  exact h.imp of_decide_eq_true

omit [Field K] [IsStrictOrderedRing K] in
/-- Rows that are in order are left there. -/
theorem descending_of_pairwise {rows : List (K × Int)}
    (h : rows.Pairwise fun a b => b.1 ≤ a.1) : descending rows = rows :=
  List.mergeSort_of_pairwise (h.imp decide_eq_true)

omit [Field K] [IsStrictOrderedRing K] in
/-- Where a score has one label, sorted rows do not depend on the order before. -/
theorem descending_reordered {rows rows' : List (K × Int)} (h : rows.Perm rows')
    (hunmixed : ∀ a ∈ rows, ∀ b ∈ rows, a.1 = b.1 → a = b) : descending rows = descending rows' := by
  have hperm : (descending rows).Perm (descending rows') :=
    ((List.mergeSort_perm _ _).trans h).trans (List.mergeSort_perm _ _).symm
  have hmem (a : K × Int) (ha : a ∈ descending rows) : a ∈ rows :=
    (List.mergeSort_perm _ _).mem_iff.mp ha
  refine hperm.eq_of_pairwise (fun a b ha hb hab hba => ?_) (pairwise_descending _)
    (pairwise_descending _)
  exact hunmixed a (hmem a ha) b (hmem b (hperm.mem_iff.mpr hb)) (le_antisymm hba hab)

omit [IsStrictOrderedRing K] in
theorem averagePrecision_reordered (hbinary : ∀ label ∈ labels, label = 0 ∨ label = 1)
    (hunmixed : Unmixed labels scores) (h : Reordered labels scores labels' scores') :
    averagePrecision labels scores = averagePrecision labels' scores' := by
  have hrows : ∀ a ∈ scores.zip labels, ∀ b ∈ scores.zip labels, a.1 = b.1 → a = b := by
    rintro ⟨score, label⟩ ha ⟨score', label'⟩ hb hscore
    obtain rfl : score = score' := hscore
    have hnot := hunmixed score
    rcases hbinary label (List.of_mem_zip ha).2 with rfl | rfl
    · rcases hbinary label' (List.of_mem_zip hb).2 with rfl | rfl
      · rfl
      · exact absurd ⟨hb, ha⟩ hnot
    · rcases hbinary label' (List.of_mem_zip hb).2 with rfl | rfl
      · exact absurd ⟨ha, hb⟩ hnot
      · rfl
  unfold averagePrecision
  rw [validate_reordered h, descending_reordered h.rows hrows, h.perm_labels.sum_eq]

/-- The sum so far is added to what is to come. -/
theorem precisionLoop_acc (rank truePositives : Nat) (acc : K) (rows : List (K × Int)) :
    precisionLoop rank truePositives acc rows =
      acc + precisionLoop rank truePositives 0 rows := by
  induction rows generalizing rank truePositives acc with
  | nil => simp [precisionLoop]
  | cons row rows ih =>
    unfold precisionLoop
    split
    · rw [ih, ih _ _ (0 + _)]
      ring
    · exact ih _ _ _

omit [LinearOrder K] [IsStrictOrderedRing K] in
theorem precisionLoop_append (rank truePositives : Nat) (acc : K) (before rows : List (K × Int)) :
    precisionLoop rank truePositives acc (before ++ rows) =
      precisionLoop (rank + before.length)
        (truePositives + before.countP fun row => row.2 = 1)
        (precisionLoop rank truePositives acc before) rows := by
  induction before generalizing rank truePositives acc with
  | nil => simp [precisionLoop]
  | cons row before ih =>
    by_cases hlabel : row.2 = 1
    · simp only [List.cons_append, precisionLoop, hlabel, if_true, ih, List.length_cons,
        List.countP_cons, decide_true]
      congr 1 <;> omega
    · simp only [List.cons_append, precisionLoop, hlabel, if_false, ih, List.length_cons,
        List.countP_cons, decide_false]
      congr 1
      omega

/-- Two rows with one score, the positive one before or behind the negative one. -/
theorem precisionLoop_swap (before after : List (K × Int)) (score : K) :
    precisionLoop 0 0 0 (before ++ (score, 1) :: (score, 0) :: after) ≠
      precisionLoop 0 0 0 (before ++ (score, 0) :: (score, 1) :: after) := by
  rw [precisionLoop_append, precisionLoop_append]
  generalize 0 + before.length = rank
  generalize (0 + before.countP fun row => row.2 = 1) = n
  generalize precisionLoop 0 0 0 before = acc
  have hfirst : precisionLoop rank n acc ((score, 1) :: (score, 0) :: after) =
      precisionLoop (rank + 2) (n + 1) (acc + (n + 1 : Nat) / (rank + 1 : Nat)) after := by
    simp [precisionLoop]
  have hsecond : precisionLoop rank n acc ((score, 0) :: (score, 1) :: after) =
      precisionLoop (rank + 2) (n + 1) (acc + (n + 1 : Nat) / (rank + 2 : Nat)) after := by
    rw [precisionLoop, if_neg (by decide), precisionLoop, if_pos rfl]
  rw [hfirst, hsecond, precisionLoop_acc, precisionLoop_acc _ _ (acc + (n + 1 : Nat) / (rank + 2 : Nat))]
  intro h
  -- the two precisions have different denominators
  have hterms : ((n + 1 : Nat) : K) / (rank + 1 : Nat) = (n + 1 : Nat) / (rank + 2 : Nat) := by
    linear_combination h
  have hpos : (0 : K) < (n + 1 : Nat) := by positivity
  have hlt : ((n + 1 : Nat) : K) / (rank + 2 : Nat) < (n + 1 : Nat) / (rank + 1 : Nat) := by
    apply div_lt_div_of_pos_left hpos
    · positivity
    · exact_mod_cast Nat.lt_succ_self _
  exact absurd hterms hlt.ne'

omit [Field K] [IsStrictOrderedRing K] in
/-- Rows with both labels of one score can be put in order with those two in the middle. -/
theorem exists_descending {rows : List (K × Int)} {x y : K × Int} (hxy : x ≠ y)
    (hscore : x.1 = y.1) (hx : x ∈ rows) (hy : y ∈ rows) :
    ∃ before after, rows.Perm (before ++ x :: y :: after) ∧
      (before ++ x :: y :: after).Pairwise fun a b => b.1 ≤ a.1 := by
  obtain ⟨rest, hrest⟩ : ∃ rest, rows.Perm (x :: y :: rest) := by
    have hy' : y ∈ rows.erase x := (List.mem_erase_of_ne hxy.symm).mpr hy
    exact ⟨(rows.erase x).erase y, (List.perm_cons_erase hx).trans
      ((List.perm_cons_erase hy').cons x)⟩
  have hsorted := pairwise_descending rest
  have hperm : (descending rest).Perm rest := List.mergeSort_perm _ _
  have hsplit := List.filter_append_perm (fun r : K × Int => decide (x.1 < r.1)) (descending rest)
  generalize hbefore : (descending rest).filter (fun r => decide (x.1 < r.1)) = before at hsplit
  generalize hafter : (descending rest).filter (fun r => !decide (x.1 < r.1)) = after at hsplit
  have habove : ∀ r ∈ before, x.1 < r.1 := by
    intro r hr
    rw [← hbefore] at hr
    exact of_decide_eq_true (List.mem_filter.mp hr).2
  have hbelow : ∀ r ∈ after, r.1 ≤ x.1 := by
    intro r hr
    rw [← hafter] at hr
    simpa using (List.mem_filter.mp hr).2
  refine ⟨before, after, ?_, ?_⟩
  · refine hrest.trans (List.Perm.symm ?_)
    refine List.perm_middle.trans (List.Perm.cons x ?_)
    exact List.perm_middle.trans (List.Perm.cons y (hsplit.trans hperm))
  · have hbeforeSorted : before.Pairwise fun a b => b.1 ≤ a.1 :=
      hbefore ▸ hsorted.sublist List.filter_sublist
    have hafterSorted : after.Pairwise fun a b => b.1 ≤ a.1 :=
      hafter ▸ hsorted.sublist List.filter_sublist
    refine List.pairwise_append.mpr ⟨hbeforeSorted, ?_, fun a ha b hb => ?_⟩
    · refine List.pairwise_cons.mpr ⟨fun r hr => ?_, List.pairwise_cons.mpr
        ⟨fun r hr => hscore ▸ hbelow r hr, hafterSorted⟩⟩
      rcases List.mem_cons.mp hr with rfl | hr
      · exact hscore.ge
      · exact hbelow r hr
    · have hb' : b.1 ≤ x.1 := by
        rcases List.mem_cons.mp hb with rfl | hb
        · exact le_rfl
        rcases List.mem_cons.mp hb with rfl | hb
        · exact hscore.ge
        · exact hbelow b hb
      exact hb'.trans (habove a ha).le

omit [Field K] [LinearOrder K] [IsStrictOrderedRing K] in
theorem zip_map (rows : List (K × Int)) : (rows.map Prod.fst).zip (rows.map Prod.snd) = rows :=
  (List.zip_of_prod rfl rfl).symm

omit [Field K] [LinearOrder K] [IsStrictOrderedRing K] in
/-- Rows in any order are the rows of two lists. -/
theorem reordered_of_perm (hlength : labels.length = scores.length) {rows : List (K × Int)}
    (h : (scores.zip labels).Perm rows) :
    Reordered labels scores (rows.map Prod.snd) (rows.map Prod.fst) :=
  ⟨hlength, by simp, (zip_map rows).symm ▸ h⟩

omit [IsStrictOrderedRing K] in
/-- What validation accepts. -/
theorem validate_eq_ok : validate labels scores = .ok () ↔ labels.length = scores.length ∧
    labels ≠ [] ∧ (∀ label ∈ labels, label = 0 ∨ label = 1) ∧
      ∀ score ∈ scores, 0 ≤ score ∧ score ≤ 1 := by
  unfold validate
  split_ifs with hempty hlabels hscores
  · refine ⟨fun h => (by cases h), fun h => ?_⟩
    rcases hempty with hlength | hnil
    · exact absurd h.1 hlength
    · exact absurd hnil h.2.1
  · refine ⟨fun h => (by cases h), fun h => ?_⟩
    obtain ⟨label, hlabel, hzero, hone⟩ := hlabels
    rcases h.2.2.1 label hlabel with h | h
    · exact absurd h hzero
    · exact absurd h hone
  · refine ⟨fun h => (by cases h), fun h => ?_⟩
    obtain ⟨score, hscore, hout⟩ := hscores
    exact absurd (h.2.2.2 score hscore) hout
  · simp only [not_or, not_not] at hempty
    refine ⟨fun _ => ⟨hempty.1, hempty.2, fun label hlabel => ?_, fun score hscore => ?_⟩,
      fun _ => rfl⟩
    · by_contra hnot
      exact hlabels ⟨label, hlabel, not_or.mp hnot⟩
    · by_contra hnot
      exact hscores ⟨score, hscore, hnot⟩

omit [IsStrictOrderedRing K] in
/-- The average precision of rows in order. -/
theorem averagePrecision_of_pairwise (haccepted : validate labels scores = .ok ())
    (hpositive : labels.sum ≠ 0) {rows : List (K × Int)} (hperm : (scores.zip labels).Perm rows)
    (hsorted : rows.Pairwise fun a b => b.1 ≤ a.1) :
    averagePrecision (rows.map Prod.snd) (rows.map Prod.fst) =
      .ok (precisionLoop 0 0 0 rows / labels.sum) := by
  have hreordered := reordered_of_perm (validate_eq_ok.mp haccepted).1 hperm
  unfold averagePrecision
  rw [← validate_reordered hreordered, haccepted, zip_map, descending_of_pairwise hsorted,
    ← hreordered.perm_labels.sum_eq, if_neg hpositive]
  rfl

/-- Where one score has both labels, the average precision is not that of the rows. -/
theorem unmixed_of_averagePrecision (haccepted : validate labels scores = .ok ())
    (h : ∀ labels' scores', Reordered labels scores labels' scores' →
      averagePrecision labels' scores' = averagePrecision labels scores) :
    Unmixed labels scores := by
  rintro score ⟨hone, hzero⟩
  obtain ⟨hlength, -, hbinary, -⟩ := validate_eq_ok.mp haccepted
  have hrows : ∀ row ∈ scores.zip labels, row.2 = 0 ∨ row.2 = 1 :=
    fun row hrow => hbinary row.2 (List.of_mem_zip hrow).2
  have hpositive : labels.sum ≠ 0 := by
    have hsum : labels.sum = ((scoresOf 1 (scores.zip labels)).length : Int) := by
      rw [← labelSum_binary hrows, labelSum, List.map_snd_zip hlength.le]
    rw [hsum]
    exact_mod_cast length_scoresOf_ne_zero hlength (List.of_mem_zip hone).2
  have hne : ((score, 1) : K × Int) ≠ (score, 0) := by simp
  obtain ⟨before, after, hperm, hsorted⟩ := exists_descending hne rfl hone hzero
  -- the two rows in the other order
  have hswap : (before ++ (score, 1) :: (score, 0) :: after).Perm
      (before ++ (score, 0) :: (score, 1) :: after) :=
    (List.Perm.swap _ _ _).append_left before
  have hsorted' : (before ++ (score, 0) :: (score, 1) :: after).Pairwise fun a b => b.1 ≤ a.1 := by
    simpa [List.pairwise_append] using hsorted
  have hfirst := averagePrecision_of_pairwise haccepted hpositive hperm hsorted
  have hsecond := averagePrecision_of_pairwise haccepted hpositive (hperm.trans hswap) hsorted'
  rw [h _ _ (reordered_of_perm hlength hperm), ← h _ _ (reordered_of_perm hlength
    (hperm.trans hswap)), hsecond] at hfirst
  have hsum : (labels.sum : K) ≠ 0 := Int.cast_ne_zero.mpr hpositive
  have hequal := (div_left_inj' hsum).mp (Except.ok.inj hfirst)
  exact precisionLoop_swap before after score hequal.symm

/-! ## §3 Bins -/

omit [Field K] [LinearOrder K] [IsStrictOrderedRing K] in
theorem labelSum_perm {rows rows' : List (K × Int)} (h : rows.Perm rows') :
    labelSum rows = labelSum rows' :=
  (h.map _).sum_eq

omit [IsStrictOrderedRing K] in
/-- A bin depends on the rows alone. -/
theorem binError_perm {bins total binIndex : Nat} {rows rows' : List (K × Int)}
    (h : rows.Perm rows') :
    binError bins total binIndex rows = binError bins total binIndex rows' := by
  unfold binError
  dsimp only
  have hmembers := h.filter fun row => decide (InBin bins binIndex row.1)
  have hempty := hmembers.length_eq
  rw [labelSum_perm hmembers, (hmembers.map Prod.fst).sum_eq, hempty]
  simp only [← List.length_eq_zero_iff, hempty]

omit [IsStrictOrderedRing K] in
theorem expectedCalibrationError_reordered (h : Reordered labels scores labels' scores')
    (bins : Int) :
    expectedCalibrationError labels scores bins = expectedCalibrationError labels' scores' bins := by
  unfold expectedCalibrationError
  simp only [validate_reordered h, binError_perm h.rows, h.perm_labels.length_eq]

/-- Of two bins of one score none is the later one. -/
theorem inBin_index_le {bins i j : Nat} (hbins : 0 < bins) {score : K} (hibins : i < bins)
    (hj : j < bins) (hi : InBin bins i score) (h : InBin bins j score) : i ≤ j := by
  have hpos : (0 : K) < bins := by exact_mod_cast hbins
  rcases h with ⟨-, hbelow⟩ | ⟨hlast, -⟩
  · rcases hi with ⟨habove, -⟩ | ⟨-, hone⟩
    · have hlt : (i : K) < (j + 1 : Nat) := by
        have := habove.trans_lt hbelow
        rwa [div_lt_div_iff_of_pos_right hpos] at this
      exact Nat.lt_succ_iff.mp (by exact_mod_cast hlt)
    · -- one is the end of the last bin, and beyond every other one
      rw [hone, lt_div_iff₀ hpos, one_mul] at hbelow
      have hlt : bins < j + 1 := by exact_mod_cast hbelow
      omega
  · omega

/-- Every score belongs to exactly one bin. -/
theorem existsUnique_inBin {bins : Nat} (hbins : 0 < bins) {score : K} (hscore : 0 ≤ score)
    (hscore' : score ≤ 1) : ∃! binIndex, binIndex < bins ∧ InBin bins binIndex score := by
  have hpos : (0 : K) < bins := by exact_mod_cast hbins
  -- the last bin that begins at the score or below it
  have hspec := Nat.findGreatest_spec (P := fun i : Nat => (i : K) / bins ≤ score)
    (Nat.zero_le (bins - 1)) (by simpa using hscore)
  have hle := Nat.findGreatest_le (P := fun i : Nat => (i : K) / bins ≤ score) (bins - 1)
  generalize hindex : Nat.findGreatest (fun i : Nat => (i : K) / bins ≤ score) (bins - 1) = index
    at hspec hle
  have hin : InBin bins index score := by
    by_cases hlast : index = bins - 1
    · rcases hscore'.lt_or_eq with hlt | hone
      · refine .inl ⟨hspec, ?_⟩
        have hsucc : index + 1 = bins := by omega
        rwa [hsucc, div_self hpos.ne']
      · exact .inr ⟨hlast, hone⟩
    · refine .inl ⟨hspec, lt_of_not_ge fun hge => ?_⟩
      have hnot := Nat.findGreatest_is_greatest (P := fun i : Nat => (i : K) / bins ≤ score)
        (n := bins - 1) (k := index + 1) (by rw [hindex]; exact Nat.lt_succ_self index) (by omega)
      exact hnot hge
  refine ⟨index, ⟨by omega, hin⟩, fun other ⟨hother, hin'⟩ => ?_⟩
  have hindexBins : index < bins := by omega
  exact le_antisymm (inBin_index_le hbins hother hindexBins hin' hin)
    (inBin_index_le hbins hindexBins hother hin hin')

/-! ## §4 The report -/

section Report

variable (lib : MathLibrary K)

/-- What is reported does not depend on the order of the rows, and every score belongs to
exactly one bin. -/
structure OrderFree (labels : List Int) (scores : List K) : Prop where
  report : ∀ labels' scores', Reordered labels scores labels' scores' →
    ∀ threshold bins, binaryMetrics lib labels' scores' threshold bins =
      binaryMetrics lib labels scores threshold bins
  curve : ∀ labels' scores', Reordered labels scores labels' scores' →
    ∀ margins, selectiveRiskCurve lib labels' scores' margins =
      selectiveRiskCurve lib labels scores margins
  auc : ∀ labels' scores', Reordered labels scores labels' scores' →
    rocAuc labels' scores' = rocAuc labels scores
  average : ∀ labels' scores', Reordered labels scores labels' scores' →
    averagePrecision labels' scores' = averagePrecision labels scores
  calibration : ∀ labels' scores', Reordered labels scores labels' scores' →
    ∀ bins, expectedCalibrationError labels' scores' bins =
      expectedCalibrationError labels scores bins
  bins : ∀ bins : Nat, 2 ≤ bins → ∀ score ∈ scores,
    ∃! binIndex, binIndex < bins ∧ InBin bins binIndex score

omit [Field K] [IsStrictOrderedRing K] in
theorem outcomes_perm {threshold : K} {rows rows' : List (K × Int)} (h : rows.Perm rows')
    (truth prediction : Int) :
    outcomes threshold rows truth prediction = outcomes threshold rows' truth prediction :=
  h.countP_eq _

/-- The report of reordered rows, where the average precision is that of the rows. -/
theorem binaryMetrics_reordered (h : Reordered labels scores labels' scores')
    (haverage : averagePrecision labels scores = averagePrecision labels' scores')
    (threshold : K) (bins : Int) :
    binaryMetrics lib labels scores threshold bins =
      binaryMetrics lib labels' scores' threshold bins := by
  unfold binaryMetrics
  simp only [validate_reordered h, outcomes_perm h.rows, rocAuc_reordered h, haverage,
    expectedCalibrationError_reordered h, h.perm_labels.length_eq, h.perm_labels.sum_eq,
    (h.rows.map squaredError).sum_eq, (h.rows.map (logTerm lib)).sum_eq]

omit [IsStrictOrderedRing K] in
theorem riskPoint_reordered (h : Reordered labels scores labels' scores') (margin : K) :
    riskPoint lib labels scores margin = riskPoint lib labels' scores' margin := by
  unfold riskPoint
  have hselected := h.rows.filter fun row : K × Int => decide (margin ≤ |row.1 - 1 / 2|)
  simp only [hselected.length_eq, hselected.countP_eq, h.perm_labels.length_eq]

/-- Nothing depends on the order of accepted rows exactly where no score has both labels. -/
theorem orderFree_iff (haccepted : validate labels scores = .ok ()) :
    OrderFree lib labels scores ↔ Unmixed labels scores := by
  obtain ⟨-, -, hbinary, hunit⟩ := validate_eq_ok.mp haccepted
  constructor
  · exact fun h => unmixed_of_averagePrecision haccepted h.average
  · intro hunmixed
    have haverage (labels' : List Int) (scores' : List K)
        (h : Reordered labels scores labels' scores') :
        averagePrecision labels scores = averagePrecision labels' scores' :=
      averagePrecision_reordered hbinary hunmixed h
    refine ⟨fun labels' scores' h threshold bins => ?_, fun labels' scores' h margins => ?_,
      fun labels' scores' h => (rocAuc_reordered h).symm,
      fun labels' scores' h => (haverage labels' scores' h).symm,
      fun labels' scores' h bins => (expectedCalibrationError_reordered h bins).symm,
      fun bins hbins score hscore => ?_⟩
    · exact (binaryMetrics_reordered lib h (haverage labels' scores' h) threshold bins).symm
    · have hpoints : riskPoint lib labels' scores' = riskPoint lib labels scores :=
        funext fun margin => (riskPoint_reordered lib h margin).symm
      unfold selectiveRiskCurve
      rw [validate_reordered h, hpoints]
    · obtain ⟨hzero, hone⟩ := hunit score hscore
      exact existsUnique_inBin (by omega) hzero hone

end Report

end Rows

end Order

theorem orderFree_iff_example :
    OrderFree MathLibrary.real [1, 0, 1] [1, 0, 1] ↔ Unmixed [1, 0, 1] [(1 : ℝ), 0, 1] :=
  orderFree_iff MathLibrary.real (validate_eq_ok.mpr ⟨rfl, by simp, by simp, by simp⟩)

/-- One score with both labels: the average precision is one or a half. -/
theorem tied_rows_count_in_order :
    averagePrecision [1, 0] [(1 / 2 : ℝ), 1 / 2] = .ok 1 ∧
      averagePrecision [0, 1] [(1 / 2 : ℝ), 1 / 2] = .ok (1 / 2) ∧
        ¬ OrderFree MathLibrary.real [1, 0] [1 / 2, 1 / 2] := by
  have haccepted : validate [1, 0] [(1 / 2 : ℝ), 1 / 2] = .ok () :=
    validate_eq_ok.mpr ⟨rfl, by simp, by simp, by norm_num⟩
  have hfirst := averagePrecision_of_pairwise haccepted (by decide) (List.Perm.refl _) (by simp)
  have hsecond := averagePrecision_of_pairwise haccepted (by decide)
    (List.Perm.swap ((1 / 2 : ℝ), 0) (1 / 2, 1) []) (by simp)
  refine ⟨hfirst.trans ?_, hsecond.trans ?_, fun h => ?_⟩
  · simp [precisionLoop]
  · simp [precisionLoop]
  · exact unmixed_of_averagePrecision haccepted h.average (1 / 2) ⟨by simp, by simp⟩

end DecisionFirewall.Metrics
