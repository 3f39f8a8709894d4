import DecisionFirewall.Engine.Containment

/-!
# The Simulated Target over Whole Runs

An engine is given case after case, and every call of `process` may end with a decision, with an
exception or anywhere between two operations. Whatever the engine has been through, the state of
an identity differs from the one that the target creates only by reversible actions, each of which
a case with the identifier was cleared for.

- §1 the target as an environment
- §2 states that actions explain
- §3 runs of an engine
- §4 an example
-/

namespace DecisionFirewall.Engine

open Lib (Prog)

/-! ## §1 The target as an environment -/

/-- The states that an operation leaves. -/
def targetStep (lib : Library) (states : Targets) (op : Op) (answer : Ans op) (after : Targets) :
    Prop :=
  match op, answer with
  | .initializeCase case, _ => after = states.initializeCase case
  | .apply caseId action, answer => (answer, after) = states.apply lib caseId action
  | .append _ _, _ | .now, _ | .uuid, _ | .latency, _ => after = states

/-- The operations of an engine on its target; everything else answers anything. -/
def targetEnv (lib : Library) (I : Targets → Prop) : Prog.Env Op Ans Targets :=
  ⟨fun _ => I, targetStep lib⟩

section Lookups

variable {states : Targets} {caseId id : String} {state : TargetState}

theorem map_fst_set : (states.set caseId state).map Prod.fst = states.map Prod.fst := by
  unfold Targets.set
  rw [List.map_map]
  refine List.map_congr_left fun entry _ => ?_
  show (if entry.1 = caseId then (caseId, state) else entry).1 = entry.1
  split
  · rename_i h
    exact h.symm
  · rfl

theorem mem_set {entry : String × TargetState} (h : entry ∈ states.set caseId state) :
    entry = (caseId, state) ∨ entry ∈ states := by
  obtain ⟨entry', hentry', heq⟩ := List.mem_map.mp h
  split at heq
  · exact .inl heq.symm
  · exact .inr (heq ▸ hentry')

theorem mem_of_lookup (h : states.lookup caseId = some state) : (caseId, state) ∈ states := by
  obtain ⟨before, after, heq, -⟩ := List.lookup_eq_some_iff.mp h
  rw [heq]
  simp

end Lookups

/-! ## §2 States that actions explain -/

section Explained

variable (lib : Library) {F : Type} [EngineFloat F] (engine : DecisionFirewallEngine F)

/-- One of the cases has the identifier and was cleared for the action. -/
def Acted (cases : List IdentityCase) (id action : String) : Prop :=
  ∃ case ∈ cases, case.caseId = id ∧ Reversible engine.config (.str action) ∧
    ∃ a : Assessed F, Cleared lib engine case a ∧ .str action ∈ a.proposal.executableActions

/-- The state of an identity is what the target created for one of the cases, with the fields
that actions have changed. -/
structure Explains (cases : List IdentityCase) (id : String) (state : TargetState) : Prop where
  created : ∃ case ∈ cases, case.caseId = id ∧ state.subjectId = case.subjectId ∧
    ∃ a : Assessed F, Cleared lib engine case a
  enabled : state.accountEnabled = true
  sessions : state.activeSessions = 2 ∨
    state.activeSessions = 0 ∧ Acted lib engine cases id "revoke_active_sessions"
  stepUp : state.stepUpRequired = false ∨
    state.stepUpRequired = true ∧ Acted lib engine cases id "force_step_up_auth"
  monitoring : state.monitoringLevel = "baseline" ∨
    state.monitoringLevel = "enhanced" ∧ Acted lib engine cases id "increase_monitoring"

/-- Every state is explained, there is one for an identifier, and none where nothing may be
executed. -/
structure Explained (cases : List IdentityCase) (states : Targets) : Prop where
  explains : ∀ entry ∈ states, Explains lib engine cases entry.1 entry.2
  nodup : (states.map Prod.fst).Nodup
  readOnly : engine.mode.isReadOnly = true → states = []

variable {lib engine} {cases : List IdentityCase} {case : IdentityCase} {states after : Targets}

theorem Acted.mono {cases' : List IdentityCase} {id action : String}
    (h : Acted lib engine cases id action) (hcases : ∀ c ∈ cases, c ∈ cases') :
    Acted lib engine cases' id action := by
  obtain ⟨case, hcase, hid, hcleared⟩ := h
  exact ⟨case, hcases case hcase, hid, hcleared⟩

theorem Explains.mono {cases' : List IdentityCase} {id : String} {state : TargetState}
    (h : Explains lib engine cases id state) (hcases : ∀ c ∈ cases, c ∈ cases') :
    Explains lib engine cases' id state where
  created := by
    obtain ⟨case, hcase, hrest⟩ := h.created
    exact ⟨case, hcases case hcase, hrest⟩
  enabled := h.enabled
  sessions := h.sessions.imp_right fun hacted => ⟨hacted.1, hacted.2.mono hcases⟩
  stepUp := h.stepUp.imp_right fun hacted => ⟨hacted.1, hacted.2.mono hcases⟩
  monitoring := h.monitoring.imp_right fun hacted => ⟨hacted.1, hacted.2.mono hcases⟩

theorem Explained.mono {cases' : List IdentityCase} (h : Explained lib engine cases states)
    (hcases : ∀ c ∈ cases, c ∈ cases') : Explained lib engine cases' states :=
  ⟨fun entry hentry => (h.explains entry hentry).mono hcases, h.nodup, h.readOnly⟩

/-- A new state is that of a cleared case. -/
theorem explained_initializeCase (h : Explained lib engine cases states) (hcase : case ∈ cases)
    (hpermits : Permits lib engine case (.initializeCase case)) :
    Explained lib engine cases (states.initializeCase case) := by
  obtain ⟨hmode, -, a, ha⟩ := hpermits
  unfold Targets.initializeCase
  split
  · exact h
  · rename_i hnew
    have hid : case.caseId ∉ states.map Prod.fst := by
      rw [Option.not_isSome_iff_eq_none, List.lookup_eq_none_iff] at hnew
      intro hmem
      obtain ⟨entry, hentry, heq⟩ := List.mem_map.mp hmem
      simpa [heq] using hnew entry hentry
    refine ⟨fun entry hentry => ?_, ?_, fun hreadOnly => ?_⟩
    · rcases List.mem_append.mp hentry with hentry | hentry
      · exact h.explains entry hentry
      · obtain rfl := List.mem_singleton.mp hentry
        exact ⟨⟨case, hcase, rfl, rfl, a, ha⟩, rfl, .inl rfl, .inl rfl, .inl rfl⟩
    · rw [List.map_append]
      refine List.Nodup.append h.nodup (List.nodup_singleton _) ?_
      intro id hold hnewId
      rw [List.map_singleton, List.mem_singleton] at hnewId
      have hsame : id = case.caseId := hnewId
      rw [hsame] at hold
      exact hid hold
    · rw [hmode] at hreadOnly
      cases hreadOnly

/-- An action of a cleared case explains what it changes. -/
theorem explains_act {id : String} {state state' : TargetState} {action : Json} {rollback : String}
    (h : Explains lib engine cases id state)
    (hacted : ∀ name, action = .str name → Acted lib engine cases id name)
    (hact : state.act action = some (state', rollback)) :
    Explains lib engine cases id state' := by
  unfold TargetState.act at hact
  -- one case for each of the three actions
  split at hact
  · cases hact
    exact { h with sessions := .inr ⟨rfl, hacted _ rfl⟩ }
  · cases hact
    exact { h with stepUp := .inr ⟨rfl, hacted _ rfl⟩ }
  · cases hact
    exact { h with monitoring := .inr ⟨rfl, hacted _ rfl⟩ }
  · cases hact

theorem explained_apply {caseId : String} {action : Json} {answer : Checked ActionResult}
    (h : Explained lib engine cases states) (hcase : case ∈ cases)
    (hpermits : Permits lib engine case (.apply caseId action))
    (hstep : (answer, after) = states.apply lib caseId action) :
    Explained lib engine cases after := by
  obtain ⟨hmode, rfl, hreversible, a, ha, haction⟩ := hpermits
  unfold Targets.apply at hstep
  cases hlookup : states.lookup case.caseId with
  | none =>
    rw [hlookup] at hstep
    cases hstep
    exact h
  | some state =>
    rw [hlookup] at hstep
    dsimp only at hstep
    split at hstep
    · cases hstep
      exact h
    · cases hact : state.act action with
      | none =>
        rw [hact] at hstep
        cases hstep
        exact h
      | some result =>
        obtain ⟨state', rollback⟩ := result
        rw [hact] at hstep
        cases hstep
        have hbefore : Explains lib engine cases case.caseId state :=
          h.explains _ (mem_of_lookup hlookup)
        have hacted : ∀ name, action = .str name → Acted lib engine cases case.caseId name := by
          rintro name rfl
          exact ⟨case, hcase, rfl, hreversible, a, ha, haction⟩
        refine ⟨fun entry hentry => ?_, ?_, fun hreadOnly => ?_⟩
        · rcases mem_set hentry with rfl | hentry
          · exact explains_act hbefore hacted hact
          · exact h.explains entry hentry
        · rw [map_fst_set]
          exact h.nodup
        · rw [hmode] at hreadOnly
          cases hreadOnly

/-- What the engine may call leaves the states explained. -/
theorem explained_step {op : Op} {answer : Ans op} (hcase : case ∈ cases)
    (hpermits : Permits lib engine case op) (h : Explained lib engine cases states)
    (hstep : targetStep lib states op answer after) : Explained lib engine cases after := by
  cases op with
  | initializeCase c =>
    have hsame : c = case := hpermits.2.1
    subst hsame
    have hafter : after = states.initializeCase c := hstep
    rw [hafter]
    exact explained_initializeCase h hcase hpermits
  | apply caseId action => exact explained_apply h hcase hpermits hstep
  | append | now | uuid | latency =>
    have hafter : after = states := hstep
    rw [hafter]
    exact h

end Explained

/-! ## §3 Runs of an engine -/

section Runs

variable (lib : Library) {F : Type} [EngineFloat F] (engine : DecisionFirewallEngine F)

/-- The states of an engine that has been given these cases, each call of `process` run to its end
or to any point before. -/
inductive Reaches : List IdentityCase → Targets → Prop where
  | new : Reaches [] []
  | call {cases : List IdentityCase} {states after : Targets} (case : IdentityCase)
      {p : EngineM (Decision F)} (hbefore : Reaches cases states)
      (hrun : Prog.Reach (targetEnv lib fun _ => True) (process lib engine case, states) (p, after)) :
      Reaches (cases ++ [case]) after

variable {lib engine}

omit [EngineFloat F] in
/-- An environment that requires something has the runs of one that requires nothing. -/
theorem reach_targetEnv {I : Targets → Prop} {c c' : Prog.Config Op Ans Raised (Decision F) Targets}
    (h : Prog.Reach (targetEnv lib fun _ => True) c c') : Prog.Reach (targetEnv lib I) c c' := by
  induction h with
  | refl => exact .refl
  | tail _ hstep ih =>
    refine ih.tail ?_
    cases hstep with
    | call hs => exact .call hs

/-- After every run, however its calls ended, the states of the target are explained: accounts
stay enabled, and nothing but a reversible action that a submitted case was cleared for has ended
a session, required a step-up or raised the monitoring. An engine that may not execute anything
has no state at all. -/
theorem explained_of_reaches {cases : List IdentityCase} {states : Targets}
    (h : Reaches lib engine cases states) : Explained lib engine cases states := by
  -- induction on the calls; within a call, an invariant of its operations
  induction h with
  | new => exact ⟨fun entry hentry => absurd hentry List.not_mem_nil, List.nodup_nil, fun _ => rfl⟩
  | @call cases states after case p _ hrun ih =>
    have hbefore : Explained lib engine (cases ++ [case]) states :=
      ih.mono fun c hc => List.mem_append_left _ hc
    have hcase : case ∈ cases ++ [case] := List.mem_append_right _ List.mem_cons_self
    have hfine : Fine lib engine case (process lib engine case) (Justified lib engine case) :=
      fine_process
    have hwp : (process lib engine case).wp
        (targetEnv lib (Explained lib engine (cases ++ [case])))
        (fun d after => Justified lib engine case d ∧ Explained lib engine (cases ++ [case]) after)
        (fun _ => Explained lib engine (cases ++ [case])) states :=
      Prog.wp_invariant hfine
        (fun _ _ _ _ hpermits hI hstep => explained_step hcase hpermits hI hstep) hbefore
    exact Prog.invariant_reach (fun _ _ hI => hI)
      (Prog.wp_mono (fun _ _ hQ => hQ.2) (fun _ _ hR => hR) hwp) (reach_targetEnv hrun)

end Runs

/-! ## §4 An example -/

section Example

/-- The target itself answers; of the rest, every operation has one answer. -/
def sampleTarget (states : Targets) : (o : Op) → Option (Ans o) × Targets
  | .initializeCase case => (some (), states.initializeCase case)
  | .apply caseId action =>
    (some (states.apply sampleLibrary caseId action).1,
      (states.apply sampleLibrary caseId action).2)
  | .append _ _ => (some (.ok ()), states)
  | .now => (some 0, states)
  | .uuid => (some "id", states)
  | .latency => (some (.int 0), states)

theorem targetStep_of_sampleTarget (states : Targets) (o : Op) (answer : Ans o) (after : Targets)
    (h : sampleTarget states o = (some answer, after)) :
    targetStep sampleLibrary states o answer after := by
  cases o with
  | initializeCase case =>
    cases h
    rfl
  | apply caseId action =>
    cases h
    rfl
  | append | now | uuid | latency =>
    cases h
    rfl

/-- The monitoring levels after the run, where it returns. -/
def sampleLevels : Option (List (String × String)) :=
  match (process sampleLibrary (sampleEngine .syntheticSimulation) sampleCase).exec sampleTarget [] with
  | (.returned _, states) => some (states.map fun entry => (entry.1, entry.2.monitoringLevel))
  | _ => none

theorem sampleLevels_eq : sampleLevels = some [("case", "enhanced")] := by
  decide +kernel

theorem explained_of_reaches_example : ∃ states : Targets,
    Reaches sampleLibrary (sampleEngine .syntheticSimulation) [sampleCase] states ∧
      states.map (fun entry => (entry.1, entry.2.monitoringLevel)) = [("case", "enhanced")] ∧
        ∀ entry ∈ states, entry.2.accountEnabled = true := by
  have hlevels := sampleLevels_eq
  unfold sampleLevels at hlevels
  split at hlevels
  · rename_i d states hrun
    have hreach : Reaches sampleLibrary (sampleEngine .syntheticSimulation) [sampleCase] states :=
      .call sampleCase .new (Prog.reach_of_exec targetStep_of_sampleTarget hrun)
    have hexplained := explained_of_reaches hreach
    refine ⟨states, hreach, Option.some.inj hlevels, fun entry hentry => ?_⟩
    exact (hexplained.explains entry hentry).enabled
  · cases hlevels

end Example

end DecisionFirewall.Engine
