import DecisionFirewall.Base.FloatOrder
import DecisionFirewall.Phase3.ShippedPolicy
import DecisionFirewall.Phase3.Decision

/-!
# Monotone Consequence

Raising the severity of a target or the requested duration never lowers the score or the
level under an accepted policy. Human approval is a matter of the policy's approval
lists, which need not be closed upwards: it is kept exactly as far as they keep it.

- §1 scales
- §2 raised inputs
- §3 the score and the level
- §4 human approval
- §5 an approval list with a gap
-/

namespace DecisionFirewall.Phase3

open PyFloat (Le)

variable {F : Type}

/-! ## §1 Scales -/

/-- Consequence levels in increasing order of severity. -/
def levelScale : List ConsequenceLevel := [.low, .medium, .high, .critical]

/-- `y` is at least as severe as `x` on the scale. -/
def AtMostOn {α : Type} [DecidableEq α] (scale : List α) (x y : α) : Prop :=
  scale.idxOf x ≤ scale.idxOf y

instance decidableAtMostOn {α : Type} [DecidableEq α] (scale : List α) (x y : α) :
    Decidable (AtMostOn scale x y) :=
  inferInstanceAs (Decidable (_ ≤ _))

section Scales

variable [PyFloat F]

theorem inUnit_iff {x : F} : InUnit x ↔ PyFloat.Unit x := by
  unfold InUnit PyFloat.Unit
  rw [PyFloat.ge_iff_le, PyFloat.ge_iff_le]

/-- Weights that increase along a scale weigh a more severe value at least as much. -/
theorem StrictlyIncreasing.le [MonotonePyFloat F] {α : Type} [DecidableEq α] {scale : List α}
    {weight : α → F} (h : StrictlyIncreasing (scale.map weight)) {x y : α} (hy : y ∈ scale)
    (hxy : AtMostOn scale x y) : Le (weight x) (weight y) := by
  induction scale generalizing x y with
  | nil => cases hy
  | cons a scale ih =>
    -- the head weighs at most as much as every later value
    have hhead : ∀ z ∈ scale, Le (weight a) (weight z) := by
      intro z hz
      cases scale with
      | nil => cases hz
      | cons b scale =>
        rw [StrictlyIncreasing, List.map_cons, List.map_cons, List.isChain_cons_cons] at h
        refine (PyFloat.le_of_lt h.1).trans (ih h.2 hz ?_)
        simp [AtMostOn]
    have htail : StrictlyIncreasing (scale.map weight) := by
      rw [StrictlyIncreasing, List.map_cons] at h
      exact h.tail
    unfold AtMostOn at hxy
    by_cases hax : a = x
    · subst hax
      rcases List.mem_cons.mp hy with rfl | hy
      · exact .refl _
      · exact hhead y hy
    · rw [List.idxOf_cons_ne _ hax] at hxy
      rcases List.mem_cons.mp hy with rfl | hy
      · rw [List.idxOf_cons_self] at hxy
        omega
      · by_cases hay : a = y
        · rw [hay, List.idxOf_cons_self] at hxy
          omega
        · rw [List.idxOf_cons_ne _ hay] at hxy
          exact ih htail hy (Nat.le_of_succ_le_succ hxy)

end Scales

/-! ## §2 Raised inputs -/

/-- The targets differ only in severity factors, each at least as severe in `t'`. -/
structure TargetRecord.RaisedTo (t t' : TargetRecord) : Prop where
  same : t'.id = t.id ∧ t'.type = t.type ∧ t'.classification = t.classification ∧
    t'.humanApprovalRequired = t.humanApprovalRequired
  criticality : AtMostOn ConsequencePolicy.criticalityScale t.criticality t'.criticality
  dependencies : t.dependencies.length ≤ t'.dependencies.length
  isolationConsequence :
    AtMostOn ConsequencePolicy.impactScale t.isolationConsequence t'.isolationConsequence
  downtime : t.estimatedDowntimeMinutes ≤ t'.estimatedDowntimeMinutes
  blastRadius : AtMostOn ConsequencePolicy.blastRadiusScale t.blastRadius t'.blastRadius
  missionImpact : AtMostOn ConsequencePolicy.impactScale t.missionImpact t'.missionImpact
  safetyImpact : AtMostOn ConsequencePolicy.impactScale t.safetyImpact t'.safetyImpact
  availabilityImpact :
    AtMostOn ConsequencePolicy.impactScale t.availabilityImpact t'.availabilityImpact

/-- The same request, for a longer time. -/
structure ActionParameters.RaisedTo (a a' : ActionParameters) : Prop where
  same : a'.preserveManagement = a.preserveManagement
  duration : a.durationSeconds ≤ a'.durationSeconds

/-- Consequence inputs that differ only by raising severity factors. -/
structure ConsequenceInputs.RaisedTo (a b : ConsequenceInputs F) : Prop where
  target : a.target.RaisedTo b.target
  actionPolicy : b.actionPolicy = a.actionPolicy
  rules : b.rules = a.rules
  parameters : a.parameters.RaisedTo b.parameters

theorem mem_criticalityScale (x : TargetCriticality) :
    x ∈ ConsequencePolicy.criticalityScale := by
  cases x <;> decide

theorem mem_blastRadiusScale (x : BlastRadius) : x ∈ ConsequencePolicy.blastRadiusScale := by
  cases x <;> decide

theorem mem_impactScale (x : ImpactLevel) : x ∈ ConsequencePolicy.impactScale := by
  cases x <;> decide

/-! ## §3 The score and the level -/

namespace ConsequenceInputs.RaisedTo

variable [PyFloat F] [MonotonePyFloat F] {a b : ConsequenceInputs F}

omit [PyFloat F] [MonotonePyFloat F] in
theorem effectiveDuration (h : a.RaisedTo b) : a.effectiveDuration ≤ b.effectiveDuration := by
  unfold ConsequenceInputs.effectiveDuration
  rw [h.actionPolicy]
  exact min_le_min_right _ h.parameters.duration

theorem downtime (h : a.RaisedTo b) : a.downtime ≤ b.downtime := by
  apply max_le_max h.target.downtime
  apply MonotonePyFloat.ceil_le
  apply MonotonePyFloat.div_le _ _ 60 (by decide)
  exact MonotonePyFloat.ofInt_le _ _ h.effectiveDuration

theorem dependencyPressure (h : a.RaisedTo b) (hrules : a.rules.Accepted) :
    Le a.dependencyPressure b.dependencyPressure := by
  apply PyFloat.min_le_min (.refl _)
  rw [h.rules]
  apply MonotonePyFloat.ratio_le
  · exact_mod_cast h.target.dependencies
  · have := hrules.references.2.2.1
    omega

theorem downtimePressure (h : a.RaisedTo b) (hrules : a.rules.Accepted) :
    Le a.downtimePressure b.downtimePressure := by
  apply PyFloat.min_le_min (.refl _)
  rw [h.rules]
  apply MonotonePyFloat.ratio_le _ _ _ h.downtime
  have := hrules.references.1
  omega

end ConsequenceInputs.RaisedTo

section Score

variable [PyFloat F] [MonotonePyFloat F] {a b : ConsequenceInputs F}

theorem unit_min_ratio {m d : Int} (hm : 0 ≤ m) (hd : 0 < d) :
    PyFloat.Unit (PyFloat.min (PyFloat.ofInt 1) (PyFloat.ratio m d) : F) := by
  refine ⟨PyFloat.le_min ?_ ?_, PyFloat.min_le_left _ _⟩
  · exact MonotonePyFloat.ofInt_le 0 1 (by decide)
  · exact MonotonePyFloat.ratio_nonneg m d hm hd

theorem unit_dependencyPressure (a : ConsequenceInputs F) (hrules : a.rules.Accepted) :
    PyFloat.Unit a.dependencyPressure := by
  apply unit_min_ratio (Int.natCast_nonneg _)
  have := hrules.references.2.2.1
  omega

theorem unit_downtimePressure (a : ConsequenceInputs F) (hrules : a.rules.Accepted)
    (hdowntime : 0 ≤ a.target.estimatedDowntimeMinutes) : PyFloat.Unit a.downtimePressure := by
  apply unit_min_ratio (hdowntime.trans (le_max_left _ _))
  have := hrules.references.1
  omega

/-- A factor that counts more: its product with a weight is not negative and grows. -/
theorem factor_le {w x y : F} (hw : PyFloat.Unit w) (hx : PyFloat.Unit x) (hy : PyFloat.Unit y)
    (hxy : Le x y) : Le (PyFloat.ofInt 0) (PyFloat.mul w x) ∧
      Le (PyFloat.mul w x) (PyFloat.mul w y) :=
  ⟨MonotonePyFloat.mul_nonneg w x hw hx, MonotonePyFloat.mul_le w x y hw hx hy hxy⟩

/-- The weighted sum is monotone, and not negative. -/
theorem ConsequenceInputs.RaisedTo.weightedSum (h : a.RaisedTo b) (hrules : a.rules.Accepted)
    (hdowntime : 0 ≤ a.target.estimatedDowntimeMinutes) :
    Le (PyFloat.ofInt 0) a.weightedSum ∧ Le a.weightedSum b.weightedSum := by
  have hweights : ∀ w ∈ a.rules.factorWeights.members, PyFloat.Unit w.2 :=
    fun w hw => inUnit_iff.mp (hrules.factors w hw).1
  simp only [FactorWeights.members, List.mem_cons, List.not_mem_nil, or_false,
    forall_eq_or_imp, forall_eq] at hweights
  obtain ⟨hcriticality, hblast, hdown, hmission, hsafety, havailability, hdependency,
    hisolation⟩ := hweights
  obtain ⟨hcs, hbs, his, -⟩ := hrules.units
  have hraised : b.rules.Accepted := h.rules ▸ hrules
  have hdowntime' := hdowntime.trans h.target.downtime
  -- each factor at its own scale
  have hc := factor_le hcriticality (inUnit_iff.mp (hcs _)) (inUnit_iff.mp (hcs _))
    (hrules.criticality.le (mem_criticalityScale _) h.target.criticality)
  have hb := factor_le hblast (inUnit_iff.mp (hbs _)) (inUnit_iff.mp (hbs _))
    (hrules.blastRadius.le (mem_blastRadiusScale _) h.target.blastRadius)
  have hd := factor_le hdown (unit_downtimePressure a hrules hdowntime)
    (unit_downtimePressure b hraised hdowntime') (h.downtimePressure hrules)
  have hm := factor_le hmission (inUnit_iff.mp (his _)) (inUnit_iff.mp (his _))
    (hrules.impact.le (mem_impactScale _) h.target.missionImpact)
  have hs := factor_le hsafety (inUnit_iff.mp (his _)) (inUnit_iff.mp (his _))
    (hrules.impact.le (mem_impactScale _) h.target.safetyImpact)
  have hv := factor_le havailability (inUnit_iff.mp (his _)) (inUnit_iff.mp (his _))
    (hrules.impact.le (mem_impactScale _) h.target.availabilityImpact)
  have hn := factor_le hdependency (unit_dependencyPressure a hrules)
    (unit_dependencyPressure b hraised) (h.dependencyPressure hrules)
  have hi := factor_le hisolation (inUnit_iff.mp (his _)) (inUnit_iff.mp (his _))
    (hrules.impact.le (mem_impactScale _) h.target.isolationConsequence)
  constructor
  · apply PyFloat.foldl_add_nonneg _ hc.1
    simp only [List.mem_cons, List.not_mem_nil, or_false, forall_eq_or_imp, forall_eq]
    exact ⟨hb.1, hd.1, hm.1, hs.1, hv.1, hn.1, hi.1⟩
  · unfold ConsequenceInputs.weightedSum
    rw [h.rules]
    apply PyFloat.foldl_add_le _ hc.1 hc.2
    exact .cons hb (.cons hd (.cons hm (.cons hs (.cons hv (.cons hn (.cons hi .nil))))))

theorem ConsequenceInputs.RaisedTo.score (h : a.RaisedTo b) (hrules : a.rules.Accepted)
    (hdowntime : 0 ≤ a.target.estimatedDowntimeMinutes) : Le a.score b.score := by
  obtain ⟨hnonneg, hsum⟩ := h.weightedSum hrules hdowntime
  have hpenalty : Le (PyFloat.ofInt 0) a.rules.irreversiblePenalty :=
    (inUnit_iff.mp hrules.units.2.2.2.1).1
  apply MonotonePyFloat.round6_le
  apply PyFloat.min_le_min (.refl _)
  apply PyFloat.max_le_max (.refl _)
  unfold ConsequenceInputs.rawScore
  rw [h.actionPolicy, h.rules]
  split
  · exact hsum
  · exact MonotonePyFloat.add_le _ _ _ _ hnonneg hpenalty hsum (.refl _)

/-- A larger score has a level at least as severe. -/
theorem ConsequenceInputs.level_le (hrules : b.rules = a.rules) (h : Le a.score b.score) :
    AtMostOn levelScale a.level b.level := by
  have hkeep : ∀ {t : F}, PyFloat.ge a.score t = true → PyFloat.ge b.score t = true := by
    intro t ht
    exact PyFloat.ge_iff_le.mpr ((PyFloat.ge_iff_le.mp ht).trans h)
  unfold ConsequenceInputs.level
  rw [hrules]
  -- every threshold that the lower score reaches, the higher one reaches
  split_ifs <;> first | decide | (exfalso; simp_all only [not_true_eq_false])

end Score

/-! ## §4 Human approval -/

section Approval

variable [PyFloat F]

/-- Some approval list holds the lower value of a factor, or the lower level, and not the
raised one. -/
def ConsequenceInputs.DropsApproval (a b : ConsequenceInputs F) : Prop :=
  (a.target.criticality ∈ a.actionPolicy.humanApprovalCriticalities ∧
    b.target.criticality ∉ a.actionPolicy.humanApprovalCriticalities) ∨
  (a.level ∈ a.rules.approvalLevels ∧ b.level ∉ a.rules.approvalLevels) ∨
  (a.target.isolationConsequence ∈ a.rules.approvalIsolationConsequences ∧
    b.target.isolationConsequence ∉ a.rules.approvalIsolationConsequences) ∨
  (a.target.missionImpact ∈ a.rules.approvalMissionImpacts ∧
    b.target.missionImpact ∉ a.rules.approvalMissionImpacts) ∨
  (a.target.safetyImpact ∈ a.rules.approvalSafetyImpacts ∧
    b.target.safetyImpact ∉ a.rules.approvalSafetyImpacts) ∨
  (a.target.availabilityImpact ∈ a.rules.approvalAvailabilityImpacts ∧
    b.target.availabilityImpact ∉ a.rules.approvalAvailabilityImpacts) ∨
  (a.target.blastRadius ∈ a.rules.approvalBlastRadii ∧
    b.target.blastRadius ∉ a.rules.approvalBlastRadii)

instance ConsequenceInputs.decidableDropsApproval (a b : ConsequenceInputs F) :
    Decidable (a.DropsApproval b) :=
  inferInstanceAs (Decidable (_ ∨ _ ∨ _ ∨ _ ∨ _ ∨ _ ∨ _))

variable [MonotonePyFloat F] {a b : ConsequenceInputs F}

omit [PyFloat F] [MonotonePyFloat F] in
/-- A cascading effect stays possible. -/
theorem ConsequenceInputs.RaisedTo.cascading (h : a.RaisedTo b) (hcascade : a.cascading = true) :
    b.cascading = true := by
  simp only [ConsequenceInputs.cascading, Bool.and_eq_true, Bool.or_eq_true,
    decide_eq_true_eq] at hcascade ⊢
  obtain ⟨hne, hblast⟩ := hcascade
  refine ⟨?_, ?_⟩
  · have hlength := h.target.dependencies
    have hpos := List.length_pos_of_ne_nil hne
    exact List.ne_nil_of_length_pos (by omega)
  · have hscale := h.target.blastRadius
    rcases hblast with hblast | hblast <;> rw [hblast] at hscale <;>
      cases hb : b.target.blastRadius <;> rw [hb] at hscale <;> revert hscale <;> decide

/-- Every ground for human approval that is not a dropped entry of an approval list stays
a ground. -/
theorem ConsequenceInputs.RaisedTo.humanApproval (h : a.RaisedTo b)
    (hkeeps : ¬ a.DropsApproval b) (happroval : a.HumanApproval) : b.HumanApproval := by
  simp only [ConsequenceInputs.DropsApproval, not_or, not_and, not_not] at hkeeps
  obtain ⟨hcriticality, hlevel, hisolation, hmission, hsafety, havailability, hblast⟩ := hkeeps
  unfold ConsequenceInputs.HumanApproval at happroval ⊢
  rw [h.actionPolicy, h.rules, h.target.same.2.2.2]
  rcases happroval with hx | hx | hx | hx | hx | hx | hx | hx | hx | hx
  · exact .inl hx
  · exact .inr (.inl (hcriticality hx))
  · exact .inr (.inr (.inl (hlevel hx)))
  · exact .inr (.inr (.inr (.inl (hisolation hx))))
  · exact .inr (.inr (.inr (.inr (.inl (hmission hx)))))
  · exact .inr (.inr (.inr (.inr (.inr (.inl (hsafety hx))))))
  · exact .inr (.inr (.inr (.inr (.inr (.inr (.inl (havailability hx)))))))
  · exact .inr (.inr (.inr (.inr (.inr (.inr (.inr (.inl (hblast hx))))))))
  · exact .inr (.inr (.inr (.inr (.inr (.inr (.inr (.inr (.inl (hx.trans h.downtime)))))))))
  · exact .inr (.inr (.inr (.inr (.inr (.inr (.inr (.inr (.inr
      ⟨h.cascading hx.1, hx.2⟩))))))))

/-- The inputs that the engine takes from a policy and a request. -/
def Policy.consequenceInputs (p : Policy F) (target : TargetRecord)
    (parameters : ActionParameters) : ConsequenceInputs F :=
  ⟨target, p.actionPolicy, p.consequence, parameters⟩

/-- Under an accepted policy raising severity factors lowers neither the score nor the
level, and loses human approval only where an approval list drops the raised value. -/
theorem consequence_monotone (p : Policy F) (hp : p.Accepted) {t t' : TargetRecord}
    {ps ps' : ActionParameters} (htarget : t.Accepted) (ht : t.RaisedTo t')
    (hps : ps.RaisedTo ps') :
    let low := p.consequenceInputs t ps
    let high := p.consequenceInputs t' ps'
    PyFloat.ge (assessConsequence high).score (assessConsequence low).score = true ∧
      AtMostOn levelScale (assessConsequence low).level (assessConsequence high).level ∧
      (¬ low.DropsApproval high → (assessConsequence low).humanApprovalRequired = true →
        (assessConsequence high).humanApprovalRequired = true) := by
  intro low high
  have h : low.RaisedTo high := ⟨ht, rfl, rfl, hps⟩
  have hscore : Le low.score high.score := h.score hp.consequence htarget.downtime.1
  refine ⟨PyFloat.ge_iff_le.mpr hscore, ConsequenceInputs.level_le rfl hscore, ?_⟩
  intro hkeeps happroval
  exact decide_eq_true (h.humanApproval hkeeps (of_decide_eq_true happroval))

end Approval

/-! ## §5 An approval list with a gap -/

/-- The lists of the shipped policy have no gap: raising an accepted target never loses
human approval. -/
theorem shippedPolicy_approval_monotone {t t' : TargetRecord} {ps ps' : ActionParameters}
    (htarget : t.Accepted) (htarget' : t'.Accepted) (ht : t.RaisedTo t') (hps : ps.RaisedTo ps')
    (happroval : (assessConsequence
      ((shippedPolicy : Policy ℚ).consequenceInputs t ps)).humanApprovalRequired = true) :
    (assessConsequence
      ((shippedPolicy : Policy ℚ).consequenceInputs t' ps')).humanApprovalRequired = true := by
  obtain ⟨-, hlevel, hkeeps⟩ := consequence_monotone shippedPolicy shippedPolicy_accepted htarget
    ht hps
  -- each list is the upper end of its scale
  have hcriticality : ∀ x y : TargetCriticality, AtMostOn ConsequencePolicy.criticalityScale x y →
      x ∈ [TargetCriticality.high, .tier0] → y ∈ [TargetCriticality.high, .tier0] := by
    intro x y
    cases x <;> cases y <;> decide
  have hlevels : ∀ x y : ConsequenceLevel, AtMostOn levelScale x y →
      x ∈ [ConsequenceLevel.high, .critical] → y ∈ [ConsequenceLevel.high, .critical] := by
    intro x y
    cases x <;> cases y <;> decide
  have himpact : ∀ x y : ImpactLevel, AtMostOn ConsequencePolicy.impactScale x y →
      (x ∈ [ImpactLevel.high, .critical] → y ∈ [ImpactLevel.high, .critical]) ∧
      (x ∈ [ImpactLevel.critical] → y ∈ [ImpactLevel.critical]) ∧
      (y ≠ .critical → x ∈ [ImpactLevel.high] → y ∈ [ImpactLevel.high]) := by
    intro x y
    cases x <;> cases y <;> decide
  have hblast : ∀ x y : BlastRadius, AtMostOn ConsequencePolicy.blastRadiusScale x y →
      x ∈ [BlastRadius.enterprise] → y ∈ [BlastRadius.enterprise] := by
    intro x y
    cases x <;> cases y <;> decide
  refine hkeeps ?_ happroval
  simp only [ConsequenceInputs.DropsApproval, not_or, not_and, not_not]
  exact ⟨hcriticality _ _ ht.criticality, hlevels _ _ hlevel,
    (himpact _ _ ht.isolationConsequence).1, (himpact _ _ ht.missionImpact).2.1,
    (himpact _ _ ht.safetyImpact).2.2 htarget'.vocabularies.2.2.1,
    (himpact _ _ ht.availabilityImpact).2.1, hblast _ _ ht.blastRadius⟩

/-- The shipped policy, with approval for a low mission impact as well. -/
def gapPolicy : Policy ℚ :=
  { shippedPolicy with
    consequence := { shippedConsequence with approvalMissionImpacts := [.low, .critical] } }

theorem gapPolicy_accepted : gapPolicy.Accepted :=
  { (shippedPolicy_accepted) with
    consequence :=
      { shippedConsequence_accepted with
        approvalMission := by decide
        lists := by decide
        vocabularies := by decide } }

/-- The workstation with a medium mission impact. -/
def raisedWorkstation : TargetRecord := { workstation042 with missionImpact := .medium }

theorem raisedWorkstation_accepted : raisedWorkstation.Accepted :=
  { workstation042_accepted with vocabularies := by decide }

theorem workstation042_raisedTo : workstation042.RaisedTo raisedWorkstation := by
  constructor <;> decide

/-- An isolation for ten minutes. -/
def tenMinutes : ActionParameters := ⟨600, true⟩

/-- A low mission impact needs approval, a medium one does not. -/
theorem approval_not_monotone :
    ¬ ∀ p : Policy ℚ, p.Accepted → ∀ (t t' : TargetRecord) (ps ps' : ActionParameters),
      t.Accepted → t'.Accepted → t.RaisedTo t' → ps.RaisedTo ps' →
      (assessConsequence (p.consequenceInputs t ps)).humanApprovalRequired = true →
      (assessConsequence (p.consequenceInputs t' ps')).humanApprovalRequired = true := by
  intro hall
  have hlost := hall gapPolicy gapPolicy_accepted workstation042 raisedWorkstation tenMinutes
    tenMinutes workstation042_accepted raisedWorkstation_accepted workstation042_raisedTo
    ⟨rfl, le_rfl⟩
  have hvalues : (assessConsequence
        (gapPolicy.consequenceInputs workstation042 tenMinutes)).humanApprovalRequired = true ∧
      (assessConsequence
        (gapPolicy.consequenceInputs raisedWorkstation tenMinutes)).humanApprovalRequired =
          false := by
    decide +kernel
  rw [hvalues.2] at hlost
  cases hlost hvalues.1

/-- A critical mission impact is on the list again. -/
def criticalWorkstation : TargetRecord := { workstation042 with missionImpact := .critical }

/-- Raised past the gap, the workstation scores at least as much and still needs approval. -/
theorem consequence_monotone_critical :
    PyFloat.ge (assessConsequence (gapPolicy.consequenceInputs criticalWorkstation tenMinutes)).score
      (assessConsequence (gapPolicy.consequenceInputs workstation042 tenMinutes)).score = true ∧
    (assessConsequence
      (gapPolicy.consequenceInputs criticalWorkstation tenMinutes)).humanApprovalRequired = true := by
  have hraised : workstation042.RaisedTo criticalWorkstation := by
    constructor <;> decide
  have hlow : (assessConsequence
        (gapPolicy.consequenceInputs workstation042 tenMinutes)).humanApprovalRequired = true ∧
      ¬ (gapPolicy.consequenceInputs workstation042 tenMinutes).DropsApproval
        (gapPolicy.consequenceInputs criticalWorkstation tenMinutes) := by
    decide +kernel
  have hmonotone := consequence_monotone gapPolicy gapPolicy_accepted workstation042_accepted
    hraised (show tenMinutes.RaisedTo tenMinutes from ⟨rfl, le_rfl⟩)
  exact ⟨hmonotone.1, hmonotone.2.2 hlow.2 hlow.1⟩

end DecisionFirewall.Phase3
