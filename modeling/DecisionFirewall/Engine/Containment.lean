import DecisionFirewall.Engine.Process

/-!
# Containment Needs an Independent Pass

What the policy engine proposes, the verifier checks again, and what the verifier refuses is not
executed. The engine touches its target for nothing but reversible actions of a case that both
have passed, in every run of `process`, also in one that an exception ends.

- §1 the verifier against the policy engine
- §2 the evidence of a case
- §3 what an operation is for
- §4 runs of `process`
- §5 an example
-/

namespace DecisionFirewall.Engine

open Lib (Prog bind_eq_ok)
open Lib.Prog (wp Trace Event)

/-! ## §1 The verifier against the policy engine -/

section Verifier

variable {lib : Library} {F : Type} [EngineFloat F] {config : PolicyConfig}
variable {case : IdentityCase} {model : ModelAssessment F} {evidence : EvidenceAssessment F}
variable {proposal : DecisionProposal} {verification : VerificationResult}

/-- What the policy engine leaves to the verifier to find out about a containment. -/
structure Clean {F : Type} [EngineFloat F] (config : PolicyConfig) (case : IdentityCase)
    (model : ModelAssessment F) (evidence : EvidenceAssessment F) (proposal : DecisionProposal) :
    Prop where
  probability : EngineFloat.le (EngineFloat.lit 0) model.compromiseProbability = true ∧
    EngineFloat.le model.compromiseProbability (EngineFloat.lit 1) = true
  cited : ∀ id ∈ proposal.evidenceEventIds, id ∈ case.eventIds
  traced : ∀ id ∈ tracedIds model, id ∈ case.eventIds
  notReserved : ∃ humanOnly, actionList config "human_only_actions" = .ok humanOnly ∧
    meets F proposal.executableActions humanOnly = false
  unpoisoned : evidence.poisonedEvidence = false
  notBreakGlass : case.breakGlass = false
  rollback : ∀ action ∈ proposal.executableActions,
    ∃ name ∈ ROLLBACK_PLAN.map Prod.fst, action = .str name
  present : proposal.executableActions ≠ []

theorem all_contains_iff {ids known : List String} :
    ids.all (known.contains ·) = true ↔ ∀ id ∈ ids, id ∈ known := by
  simp only [List.all_eq_true, List.contains_iff_mem]

/-- The checks of every proposal, one by one. -/
theorem generalChecks_passed {probability : F} {traced : List String}
    {autonomous humanOnly : List Json} :
    (generalChecks F case probability traced proposal autonomous humanOnly).all Check.passed = true ↔
      (EngineFloat.le (EngineFloat.lit 0) probability = true ∧
        EngineFloat.le probability (EngineFloat.lit 1) = true) ∧
      (∀ id ∈ proposal.evidenceEventIds, id ∈ case.eventIds) ∧
      (∀ id ∈ traced, id ∈ case.eventIds) ∧
      meets F proposal.executableActions humanOnly = false ∧
      subsetOf F proposal.executableActions autonomous = true := by
  simp only [generalChecks, List.all_cons, List.all_nil, Bool.and_true, Bool.and_eq_true,
    all_contains_iff, Bool.not_eq_true']

/-- The thresholds are read alike by both, so that only other checks can fail. -/
theorem passed_iff_clean (hcontains : Contains lib config case model evidence proposal)
    (h : verify lib config case model evidence proposal = .ok verification) :
    verification.passed = true ↔ Clean config case model evidence proposal := by
  obtain ⟨autonomous, humanOnly, special, hautonomous, hhashable, hhumanOnly, hspecial, rfl⟩ :=
    verify_eq_ok h
  have hsame : autonomous = proposal.executableActions := by
    rw [hcontains.actions] at hautonomous
    cases hautonomous
    rfl
  subst hsame
  rw [specialChecks, if_pos hcontains.disposition] at hspecial
  obtain ⟨risk, quality, provenance, integrity, corroboration, agreement, boundary, hrisk,
    hquality, hprovenance, hintegrity, hcorroboration, hagreement, hboundary, hpassed⟩ :=
    (containReads_of_checks hspecial).reads
  -- what the policy engine has read already
  obtain ⟨hrisk', hquality', hprovenance', hintegrity', hagreement', hcorroboration',
    hboundary'⟩ := hcontains.eligible
  rw [hrisk'] at hrisk
  rw [hquality'] at hquality
  rw [hprovenance'] at hprovenance
  rw [hintegrity'] at hintegrity
  rw [hagreement'] at hagreement
  rw [hcorroboration'] at hcorroboration
  rw [hboundary'] at hboundary
  cases hrisk; cases hquality; cases hprovenance; cases hintegrity
  cases hcorroboration; cases hagreement; cases hboundary
  rw [VerificationResult.passed_append, generalChecks_passed, hpassed]
  simp only [Bool.true_and, Bool.and_true, Bool.and_eq_true, Bool.not_eq_true', List.all_eq_true,
    List.isEmpty_eq_false_iff, hasRollback_iff, hcontains.rollbackPlan]
  constructor
  · rintro ⟨⟨hprobability, hcited, htraced, hreserved, -⟩, ⟨⟨hpoison, hglass⟩, hroll⟩, hpresent⟩
    exact ⟨hprobability, hcited, htraced, ⟨humanOnly, hhumanOnly, hreserved⟩, hpoison, hglass,
      hroll, hpresent⟩
  · rintro ⟨hprobability, hcited, htraced, ⟨humanOnly', hhumanOnly', hreserved⟩, hpoison, hglass,
      hroll, hpresent⟩
    rw [hhumanOnly] at hhumanOnly'
    cases hhumanOnly'
    exact ⟨⟨hprobability, hcited, htraced, hreserved, subsetOf_self F hhashable⟩,
      ⟨⟨hpoison, hglass⟩, hroll⟩, hpresent⟩

/-- The actions of a clean containment are reversible. -/
theorem reversible_of_clean (hcontains : Contains lib config case model evidence proposal)
    (hclean : Clean config case model evidence proposal) {action : Json}
    (haction : action ∈ proposal.executableActions) : Reversible config action := by
  obtain ⟨name, hname, rfl⟩ := hclean.rollback action haction
  obtain ⟨humanOnly, hhumanOnly, hmeets⟩ := hclean.notReserved
  refine ⟨⟨name, hname, rfl⟩, ⟨_, hcontains.actions, haction⟩, humanOnly, hhumanOnly, ?_⟩
  intro hmem
  have hmember : memberOf F (.str name) humanOnly = true := (memberOf_str F).mpr hmem
  exact absurd (List.any_eq_true.mpr ⟨_, haction, hmember⟩) (Bool.eq_false_iff.mp hmeets)

end Verifier

/-! ## §2 The evidence of a case -/

section Evidence

variable {lib : Library} {F : Type} [EngineFloat F] {case : IdentityCase}
variable {evidence : EvidenceAssessment F}

/-- The facts about an event bear its identifier. -/
theorem eventId_of_assessEvent {event : EvidenceEvent} {facts : EventFacts F}
    (h : assessEvent lib event = .ok facts) : facts.eventId = event.eventId := by
  obtain ⟨collected, -, h⟩ := bind_eq_ok.mp h
  obtain ⟨observed, -, h⟩ := bind_eq_ok.mp h
  obtain ⟨delay, -, h⟩ := bind_eq_ok.mp h
  obtain ⟨modeled, -, h⟩ := bind_eq_ok.mp h
  obtain ⟨selected, -, h⟩ := bind_eq_ok.mp h
  cases h
  rfl

theorem eventIds_of_assessEvents {events : List EvidenceEvent} {facts : List (EventFacts F)}
    (h : events.mapM (assessEvent lib) = .ok facts) :
    facts.map EventFacts.eventId = events.map EvidenceEvent.eventId := by
  induction events generalizing facts with
  | nil =>
    cases h
    rfl
  | cons event events ih =>
    rw [List.mapM_cons] at h
    obtain ⟨fact, hfact, h⟩ := bind_eq_ok.mp h
    obtain ⟨rest, hrest, h⟩ := bind_eq_ok.mp h
    cases h
    rw [List.map_cons, List.map_cons, eventId_of_assessEvent hfact, ih hrest]

omit [EngineFloat F] in
theorem mem_idsWhere {p : EventFacts F → Bool} {facts : List (EventFacts F)} {id : String}
    (h : id ∈ idsWhere p facts) : id ∈ facts.map EventFacts.eventId := by
  obtain ⟨fact, hfact, rfl⟩ := List.mem_map.mp h
  exact List.mem_map_of_mem (List.mem_filter.mp hfact).1

/-- Evidence cites events of its case. -/
theorem cited_of_assessEvidence (h : assessEvidence lib case = .ok evidence) {id : String}
    (hid : id ∈ evidenceIds evidence) : id ∈ case.eventIds := by
  have hcited : id ∈ evidence.positiveEventIds ++ evidence.benignEventIds ++
      evidence.poisonedEventIds :=
    List.mem_dedup.mp ((Lib.sortBy_perm _).mem_iff.mp hid)
  unfold assessEvidence at h
  split at h
  · cases h
    simp [noEvidence] at hcited
  · obtain ⟨facts, hfacts, h⟩ := bind_eq_ok.mp h
    obtain ⟨provenance, -, h⟩ := bind_eq_ok.mp h
    obtain ⟨integrity, -, h⟩ := bind_eq_ok.mp h
    obtain ⟨freshness, -, h⟩ := bind_eq_ok.mp h
    obtain ⟨trustScores, -, h⟩ := bind_eq_ok.mp h
    obtain ⟨trust, -, h⟩ := bind_eq_ok.mp h
    cases h
    rw [IdentityCase.eventIds, ← eventIds_of_assessEvents hfacts]
    rcases List.mem_append.mp hcited with hcited | hpoisoned
    · rcases List.mem_append.mp hcited with hpositive | hbenign
      · exact mem_idsWhere hpositive
      · exact mem_idsWhere hbenign
    · exact mem_idsWhere hpoisoned

variable {config : PolicyConfig} {model : ModelAssessment F} {proposal : DecisionProposal}
variable {verification : VerificationResult}

theorem meets_eq_false {xs ys : List Json} :
    meets F xs ys = false ↔ ∀ x ∈ xs, memberOf F x ys = false := by
  simp only [meets, List.any_eq_false, Bool.not_eq_true]

/-- Reversible actions are what a clean containment has to have. -/
theorem reserved_of_reversible {actions humanOnly : List Json}
    (hhumanOnly : actionList config "human_only_actions" = .ok humanOnly)
    (h : ∀ action ∈ actions, Reversible config action) : meets F actions humanOnly = false := by
  refine meets_eq_false.mpr fun action haction => ?_
  obtain ⟨⟨name, -, rfl⟩, -, humanOnly', hhumanOnly', hnot⟩ := h action haction
  rw [hhumanOnly] at hhumanOnly'
  cases hhumanOnly'
  exact Bool.eq_false_iff.mpr fun hmember => hnot ((memberOf_str F).mp hmember)

/-- A proposal that is no containment fails the verifier for the model's sake only. -/
theorem passed_of_no_containment (hother : proposal.disposition ≠ .containReversible)
    (hnone : proposal.executableActions = [])
    (hcited : ∀ id ∈ proposal.evidenceEventIds, id ∈ case.eventIds)
    (h : verify lib config case model evidence proposal = .ok verification) :
    verification.passed = true ↔
      (EngineFloat.le (EngineFloat.lit 0) model.compromiseProbability = true ∧
        EngineFloat.le model.compromiseProbability (EngineFloat.lit 1) = true) ∧
      ∀ id ∈ tracedIds model, id ∈ case.eventIds := by
  obtain ⟨autonomous, humanOnly, special, -, -, -, hspecial, rfl⟩ := verify_eq_ok h
  rw [specialChecks, if_neg hother] at hspecial
  cases hspecial
  have hexecution : [executionCheck proposal].all Check.passed = true := by
    simp [executionCheck, hnone]
  have hmeets : meets F proposal.executableActions humanOnly = false := by
    rw [hnone]
    rfl
  have hsubset : subsetOf F proposal.executableActions autonomous = true := by
    rw [hnone]
    rfl
  rw [VerificationResult.passed_append, generalChecks_passed]
  exact ⟨fun hpassed => ⟨hpassed.1.1, hpassed.1.2.2.1⟩,
    fun hmodel => ⟨⟨hmodel.1, hcited, hmodel.2, hmeets, hsubset⟩, hexecution⟩⟩

/-- The verifier and the policy engine read every threshold alike. The verifier refuses a
proposal of the policy engine exactly where the model claims an impossible probability or traces
events that the case does not have, and a containment besides where the policy lets poisoned
evidence or a break-glass identity through, where it has no actions, and where one of its actions
cannot be taken back or is reserved for humans. -/
theorem verifier_passes_iff (hevidence : assessEvidence lib case = .ok evidence)
    (hpropose : propose lib config case model evidence = .ok proposal)
    (hverify : verify lib config case model evidence proposal = .ok verification) :
    verification.passed = true ↔
      (EngineFloat.le (EngineFloat.lit 0) model.compromiseProbability = true ∧
        EngineFloat.le model.compromiseProbability (EngineFloat.lit 1) = true) ∧
      (∀ id ∈ tracedIds model, id ∈ case.eventIds) ∧
      (proposal.disposition = .containReversible →
        evidence.poisonedEvidence = false ∧ case.breakGlass = false ∧
          proposal.executableActions ≠ [] ∧
            ∀ action ∈ proposal.executableActions, Reversible config action) := by
  have hcited : ∀ id ∈ proposal.evidenceEventIds, id ∈ case.eventIds := by
    rw [evidenceEventIds_of_propose hpropose]
    exact fun id hid => cited_of_assessEvidence hevidence hid
  rcases propose_cases hpropose with hcontains | ⟨hother, hnone⟩
  · rw [passed_iff_clean hcontains hverify]
    constructor
    · intro hclean
      exact ⟨hclean.probability, hclean.traced, fun _ => ⟨hclean.unpoisoned,
        hclean.notBreakGlass, hclean.present, fun _ haction =>
          reversible_of_clean hcontains hclean haction⟩⟩
    · rintro ⟨hprobability, htraced, hcontain⟩
      obtain ⟨hpoison, hglass, hpresent, hreversible⟩ := hcontain hcontains.disposition
      obtain ⟨-, humanOnly, -, -, -, hhumanOnly, -⟩ := verify_eq_ok hverify
      exact ⟨hprobability, hcited, htraced,
        ⟨humanOnly, hhumanOnly, reserved_of_reversible hhumanOnly hreversible⟩, hpoison, hglass,
        fun action haction => (hreversible action haction).rollback, hpresent⟩
  · rw [passed_of_no_containment hother hnone hcited hverify]
    exact ⟨fun hmodel => ⟨hmodel.1, hmodel.2, fun hcontain => absurd hcontain hother⟩,
      fun h => ⟨h.1, h.2.1⟩⟩

end Evidence

/-! ## §3 What an operation is for -/

section Operations

variable (lib : Library) {F : Type} [EngineFloat F] (engine : DecisionFirewallEngine F)
variable (case : IdentityCase)

/-- The stages of a case have led to these results. -/
structure IsAssessed (a : Assessed F) : Prop where
  evidence : assessEvidence lib case = .ok a.evidence
  model : engine.assess case = .ok a.model
  proposal : propose lib engine.config case a.model a.evidence = .ok a.proposal
  verification : verify lib engine.config case a.model a.evidence a.proposal = .ok a.verification

/-- A containment of the case is proposed, and the verifier has passed it. -/
structure Cleared (a : Assessed F) : Prop where
  assessed : IsAssessed lib engine case a
  contains : Contains lib engine.config case a.model a.evidence a.proposal
  passed : a.verification.passed = true
  clean : Clean engine.config case a.model a.evidence a.proposal

/-- The engine of a simulation touches the state of the case; it acts on it only where the case
is cleared for the action. -/
def Permits : Op → Prop
  | .append _ _ | .now | .uuid | .latency => True
  | .initializeCase c => engine.mode.isReadOnly = false ∧ c = case ∧
      ∃ a : Assessed F, Cleared lib engine case a
  | .apply caseId action => engine.mode.isReadOnly = false ∧ caseId = case.caseId ∧
      Reversible engine.config action ∧
        ∃ a : Assessed F, Cleared lib engine case a ∧ action ∈ a.proposal.executableActions

variable {lib engine case}

/-- Only a cleared proposal keeps its actions. -/
theorem cleared_of_actions {a : Assessed F} (h : IsAssessed lib engine case a)
    (hactions : (downgrade a.proposal a.verification).executableActions ≠ []) :
    downgrade a.proposal a.verification = a.proposal ∧ Cleared lib engine case a := by
  unfold downgrade at hactions ⊢
  split at hactions
  · exact absurd rfl hactions
  · rename_i hkeep
    rw [if_neg hkeep]
    have hpassed : a.verification.passed = true := by
      rw [← Bool.not_eq_false]
      exact fun hfalse => hkeep ⟨hactions, hfalse⟩
    rcases propose_cases h.proposal with hcontains | ⟨-, hnone⟩
    · exact ⟨rfl, h, hcontains, hpassed, (passed_iff_clean hcontains h.verification).mp hpassed⟩
    · exact absurd hnone hactions

/-- The actions of a cleared case may be applied. -/
theorem permits_apply {a : Assessed F} (hmode : engine.mode.isReadOnly = false)
    (h : Cleared lib engine case a) {action : Json}
    (haction : action ∈ a.proposal.executableActions) :
    Permits lib engine case (.apply case.caseId action) :=
  ⟨hmode, rfl, reversible_of_clean h.contains h.clean haction, a, h, haction⟩

end Operations

/-! ## §4 Runs of `process` -/

section Runs

variable (lib : Library) {F : Type} [EngineFloat F] (engine : DecisionFirewallEngine F)
variable (case : IdentityCase)

/-- Operations answer anything, and only permitted ones are called. -/
def permitting : Prog.Env Op Ans Unit :=
  Prog.observing (fun op _ => Permits lib engine case op) fun s _ _ => s

/-- What the execution of a proposal leaves. -/
structure Settled (proposal : DecisionProposal) (e : Execution) : Prop where
  counterfactual : e.counterfactualActions =
    if engine.mode.isReadOnly then proposal.executableActions else []
  token : e.token.isSome = true → proposal.executableActions ≠ []
  readOnly : engine.mode.isReadOnly = true → e.token = none ∧ e.authorizationAttempted = false ∧
    e.actionResults = [] ∧ e.brokerInvocations = 0 ∧ e.operationalEffects = 0
  unattempted : engine.mode.isReadOnly = true →
    e.authorizationError = "" ∧ e.postAction = notApplicable .null
  results : proposal.executableActions = [] → e.actionResults = []

/-- What a decision rests on. -/
structure Justified (d : Decision F) : Prop where
  ofCase : d.case = case
  mode : d.mode = engine.mode
  rests : ∃ a : Assessed F, IsAssessed lib engine case a ∧
    d.evidence = a.evidence ∧ d.model = a.model ∧ d.verification = a.verification ∧
    d.originalDisposition = a.proposal.disposition ∧
    d.proposal = (if engine.mode.isReadOnly then observed (downgrade a.proposal a.verification)
      else downgrade a.proposal a.verification) ∧
    Settled engine (downgrade a.proposal a.verification) d.execution

variable {lib engine case} {α : Type} {Q : α → Unit → Prop} {s : Unit}

/-- The run is about to do only what is permitted, and what it returns is in `Q`. -/
def Fine (lib : Library) {F : Type} [EngineFloat F] (engine : DecisionFirewallEngine F)
    (case : IdentityCase) {α : Type} (p : EngineM α) (Q : α → Prop) : Prop :=
  p.wp (permitting lib engine case) (fun a _ => Q a) (fun _ _ => True) ()

theorem fine_bind {β : Type} {p : EngineM α} {f : α → EngineM β} {P : α → Prop} {R : β → Prop}
    (h : Fine lib engine case p P) (hf : ∀ a, P a → Fine lib engine case (f a) R) :
    Fine lib engine case (p >>= f) R := by
  refine Prog.wp_seq h (fun a s ha => ?_) fun _ _ _ => trivial
  exact hf a ha

theorem fine_pure {a : α} {P : α → Prop} (h : P a) : Fine lib engine case (pure a) P := h

theorem fine_ofExcept {x : Checked α} : Fine lib engine case (.ofExcept x) fun a => x = .ok a := by
  refine Prog.wp_ofExcept.mpr ⟨fun a ha => ha, fun _ _ => trivial⟩

theorem fine_mono {p : EngineM α} {P R : α → Prop} (h : Fine lib engine case p P)
    (hPR : ∀ a, P a → R a) : Fine lib engine case p R :=
  Prog.wp_mono (fun a _ => hPR a) (fun _ _ _ => trivial) h

theorem fine_perform {op : Op} (h : Permits lib engine case op) :
    Fine lib engine case (.perform op) fun _ => True :=
  ⟨h, fun _ _ _ => trivial⟩

theorem fine_now : Fine lib engine case now fun _ => True := fine_perform trivial

theorem fine_uuid : Fine lib engine case uuid fun _ => True := fine_perform trivial

theorem fine_latency : Fine lib engine case (.perform Op.latency : EngineM Json) fun _ => True :=
  fine_perform trivial

/-- The target creates the state of a cleared case. -/
theorem fine_opened {a : Assessed F} (hmode : engine.mode.isReadOnly = false)
    (h : Cleared lib engine case a) :
    Fine lib engine case (.perform (Op.initializeCase case) : EngineM Unit) fun _ => True :=
  fine_perform ⟨hmode, rfl, a, h⟩

theorem fine_appendRow {recordType : String} {payload : Dict} :
    Fine lib engine case (appendRow recordType payload) fun _ => True := by
  refine ⟨trivial, fun a _ _ => ?_⟩
  exact fine_mono fine_ofExcept fun _ _ => trivial

/-- The stages lead to what the functions of the stages say. -/
theorem fine_assessCase :
    Fine lib engine case (assessCase lib engine case) (IsAssessed lib engine case) := by
  refine fine_bind fine_appendRow fun _ _ => ?_
  refine fine_bind fine_ofExcept fun evidence hevidence => ?_
  refine fine_bind fine_appendRow fun _ _ => ?_
  refine fine_bind fine_ofExcept fun model hmodel => ?_
  refine fine_bind fine_appendRow fun _ _ => ?_
  refine fine_bind fine_ofExcept fun proposal hproposal => ?_
  refine fine_bind fine_appendRow fun _ _ => ?_
  refine fine_bind fine_ofExcept fun verification hverification => ?_
  refine fine_bind fine_appendRow fun _ _ => ?_
  exact fine_pure ⟨hevidence, hmodel, hproposal, hverification⟩

theorem fine_suppress {proposal : DecisionProposal} (hmode : engine.mode.isReadOnly = true) :
    Fine lib engine case (suppress engine case proposal) (Settled engine proposal) := by
  refine fine_bind fine_appendRow fun _ _ => ?_
  refine fine_bind fine_appendRow fun _ _ => ?_
  refine fine_pure ⟨?_, ?_, fun _ => ⟨rfl, rfl, rfl, rfl, rfl⟩, fun _ => ⟨rfl, rfl⟩,
    fun _ => rfl⟩
  · rw [hmode]
    rfl
  · exact fun h => (by cases h)

/-- A proposal without actions gets no token. -/
theorem token_of_authorize {config : PolicyConfig} {key uuid : String} {now : Int}
    {proposal : DecisionProposal} {verification : VerificationResult}
    {token : Option AuthorizationToken}
    (h : authorize lib F config key case proposal verification now uuid = .ok token) :
    token.isSome = true → proposal.executableActions ≠ [] := by
  intro hsome hnone
  rw [authorize, if_pos hnone] at h
  cases h
  cases hsome

theorem fine_requestToken {proposal : DecisionProposal} {verification : VerificationResult} :
    Fine lib engine case (requestToken lib engine case proposal verification) fun answer =>
      answer.1.isSome = true → proposal.executableActions ≠ [] := by
  refine fine_bind fine_now fun instant _ => ?_
  refine fine_bind fine_uuid fun id _ => ?_
  split
  · rename_i token htoken
    exact fine_pure (token_of_authorize (F := F) htoken)
  · exact fine_pure fun h => (by cases h)
  · exact trivial

/-- One action of a cleared case. -/
theorem fine_executeAction {a : Assessed F} (hmode : engine.mode.isReadOnly = false)
    (h : Cleared lib engine case a) (token : AuthorizationToken) {action : Json}
    (haction : action ∈ a.proposal.executableActions) :
    Fine lib engine case (executeAction lib engine case token action) fun _ => True := by
  refine fine_bind (P := fun _ => True) ?_ fun result _ => ?_
  · refine fine_bind fine_now fun instant _ => ?_
    split
    · exact fine_pure trivial
    · refine fine_bind (fine_opened hmode h) fun _ _ => ?_
      exact fine_perform (permits_apply hmode h haction)
  · split
    · exact fine_bind fine_appendRow fun _ _ => fine_pure trivial
    · exact fine_bind fine_appendRow fun _ _ => fine_pure trivial
    · exact trivial

/-- The loop over the actions of a cleared case. -/
theorem fine_executeActions {a : Assessed F} (hmode : engine.mode.isReadOnly = false)
    (h : Cleared lib engine case a) (token : AuthorizationToken) {actions : List Json}
    (hactions : ∀ action ∈ actions, action ∈ a.proposal.executableActions) :
    Fine lib engine case (executeActions lib engine case token actions) fun _ => True := by
  induction actions with
  | nil => exact fine_pure trivial
  | cons action actions ih =>
    obtain ⟨haction, hactions⟩ := List.forall_mem_cons.mp hactions
    refine fine_bind (fine_executeAction hmode h token haction) fun _ _ => ?_
    exact fine_bind (ih hactions) fun _ _ => fine_pure trivial

theorem fine_simulate {a : Assessed F} (hmode : engine.mode.isReadOnly = false)
    (h : IsAssessed lib engine case a) :
    Fine lib engine case
      (simulate lib engine case (downgrade a.proposal a.verification) a.verification)
      (Settled engine (downgrade a.proposal a.verification)) := by
  refine fine_bind fine_requestToken fun answer htoken => ?_
  obtain ⟨token, error⟩ := answer
  refine fine_bind fine_appendRow fun _ _ => ?_
  -- without a token there are no results
  refine fine_bind (P := fun results => token = none → results = []) ?_ fun results hresults => ?_
  · cases token with
    | none => exact fine_pure fun _ => rfl
    | some token =>
      obtain ⟨hkeep, hcleared⟩ := cleared_of_actions h (htoken rfl)
      rw [hkeep]
      refine fine_mono (fine_executeActions hmode hcleared token fun _ haction => haction)
        fun _ _ hnone => ?_
      cases hnone
  · refine fine_bind fine_ofExcept fun postAction _ => ?_
    refine fine_bind (P := fun _ => True) ?_ fun _ _ => ?_
    · unfold recordPostAction
      split
      · exact fine_pure trivial
      · exact fine_appendRow
    · have hnot : ¬ engine.mode.isReadOnly = true := by
        rw [hmode]
        exact Bool.false_ne_true
      refine fine_pure ⟨?_, htoken, fun hreadOnly => absurd hreadOnly hnot,
        fun hreadOnly => absurd hreadOnly hnot, ?_⟩
      · rw [hmode]
        rfl
      · intro hnone
        refine hresults ?_
        cases token with
        | none => rfl
        | some token => exact absurd hnone (htoken rfl)

theorem fine_finalize {a : Assessed F} {proposal : DecisionProposal} {execution : Execution}
    (h : IsAssessed lib engine case a)
    (hproposal : proposal = (if engine.mode.isReadOnly
      then observed (downgrade a.proposal a.verification)
      else downgrade a.proposal a.verification))
    (hexecution : Settled engine (downgrade a.proposal a.verification) execution) :
    Fine lib engine case (finalize lib engine case a proposal execution)
      (Justified lib engine case) := by
  refine fine_bind fine_latency fun latency _ => ?_
  refine fine_bind fine_uuid fun id _ => ?_
  refine fine_bind fine_now fun instant _ => ?_
  refine fine_bind fine_ofExcept fun createdAt _ => ?_
  refine fine_bind fine_appendRow fun _ _ => ?_
  exact fine_pure ⟨rfl, rfl, a, h, rfl, rfl, rfl, rfl, hproposal, hexecution⟩

/-- Every run of `process` calls only what is permitted, and its decision is justified. -/
theorem fine_process :
    Fine lib engine case (process lib engine case) (Justified lib engine case) := by
  refine fine_bind fine_assessCase fun a ha => ?_
  dsimp only
  split
  · rename_i hmode
    refine fine_bind (fine_suppress hmode) fun execution hexecution => ?_
    exact fine_finalize ha (by rw [if_pos hmode]) hexecution
  · rename_i hmode
    have hfalse : engine.mode.isReadOnly = false := Bool.not_eq_true _ ▸ hmode
    refine fine_bind (fine_simulate hfalse ha) fun execution hexecution => ?_
    exact fine_finalize ha (by rw [if_neg hmode]) hexecution

/-- What a justified decision says of its case. -/
theorem Justified.actions {d : Decision F} (h : Justified lib engine case d)
    (hactions : d.proposal.executableActions ≠ [] ∨ d.execution.counterfactualActions ≠ [] ∨
      d.execution.token.isSome = true ∨ d.execution.actionResults ≠ []) :
    d.verification.passed = true ∧ Eligible lib engine.config case d.model d.evidence ∧
      d.evidence.poisonedEvidence = false ∧ case.breakGlass = false := by
  obtain ⟨a, ha, hevidence, hmodel, hverification, -, hproposal, hsettled⟩ := h.rests
  have hkept : (downgrade a.proposal a.verification).executableActions ≠ [] := by
    intro hnone
    rcases hactions with hactions | hactions | hactions | hactions
    · refine hactions ?_
      rw [hproposal]
      split
      · rfl
      · exact hnone
    · refine hactions ?_
      rw [hsettled.counterfactual, hnone, ite_self]
    · exact hsettled.token hactions hnone
    · exact hactions (hsettled.results hnone)
  obtain ⟨-, hcleared⟩ := cleared_of_actions ha hkept
  rw [hverification, hmodel, hevidence]
  exact ⟨hcleared.passed, hcleared.contains.eligible, hcleared.clean.unpoisoned,
    hcleared.clean.notBreakGlass⟩

theorem Justified.containment {d : Decision F} (h : Justified lib engine case d)
    (hfinal : d.proposal.disposition = .containReversible) :
    d.originalDisposition = .containReversible ∧
      Eligible lib engine.config case d.model d.evidence ∧
      (d.verification.passed = true ∨ actionList engine.config "autonomous_actions" = .ok []) := by
  obtain ⟨a, ha, hevidence, hmodel, hverification, horiginal, hproposal, -⟩ := h.rests
  have hfinal' : (downgrade a.proposal a.verification).disposition = .containReversible := by
    rw [hproposal] at hfinal
    split at hfinal
    · exact hfinal
    · exact hfinal
  unfold downgrade at hfinal'
  split at hfinal'
  · cases hfinal'
  · rename_i hkeep
    rcases propose_cases ha.proposal with hcontains | ⟨hother, -⟩
    · rw [horiginal, hverification, hmodel, hevidence]
      refine ⟨hfinal', hcontains.eligible, ?_⟩
      cases hpassed : a.verification.passed with
      | true => exact .inl rfl
      | false =>
        have hnone : a.proposal.executableActions = [] := by
          by_contra hsome
          exact hkeep ⟨hsome, hpassed⟩
        exact .inr (hnone ▸ hcontains.actions)
    · exact absurd hfinal' hother

theorem Justified.readOnly {d : Decision F} (h : Justified lib engine case d)
    (hmode : engine.mode.isReadOnly = true) :
    d.execution.token = none ∧ d.execution.authorizationAttempted = false ∧
      d.execution.actionResults = [] ∧ d.execution.brokerInvocations = 0 ∧
      d.execution.operationalEffects = 0 ∧ d.proposal.executableActions = [] := by
  obtain ⟨a, -, -, -, -, -, hproposal, hsettled⟩ := h.rests
  obtain ⟨htoken, hattempted, hresults, hinvocations, heffects⟩ := hsettled.readOnly hmode
  refine ⟨htoken, hattempted, hresults, hinvocations, heffects, ?_⟩
  rw [hproposal, if_pos hmode]
  rfl

/-- In every run of `process`, whatever the audit logger, the clocks and the target answer: the
target is touched in a simulation only, for a case that the policy engine found eligible and the
verifier passed, with actions that are reversible, on the autonomous list and not reserved. A
decision that returns keeps actions or a token only for such a case; it ends in containment only
where the verifier passed the case or the policy has no actions; and where nothing may be
executed, nothing was. -/
theorem executes_only_what_is_cleared {history : List (Event Op Ans)} {p : EngineM (Decision F)}
    (h : Trace (process lib engine case) history p) :
    (∀ event ∈ history, Permits lib engine case event.op) ∧
      ∀ d, p = .ret d →
        (d.proposal.executableActions ≠ [] ∨ d.execution.counterfactualActions ≠ [] ∨
            d.execution.token.isSome = true ∨ d.execution.actionResults ≠ [] →
          d.verification.passed = true ∧ Eligible lib engine.config case d.model d.evidence ∧
            d.evidence.poisonedEvidence = false ∧ case.breakGlass = false) ∧
        (d.proposal.disposition = .containReversible →
          d.originalDisposition = .containReversible ∧
            Eligible lib engine.config case d.model d.evidence ∧
            (d.verification.passed = true ∨
              actionList engine.config "autonomous_actions" = .ok [])) ∧
        (engine.mode.isReadOnly = true →
          d.execution.token = none ∧ d.execution.authorizationAttempted = false ∧
            d.execution.actionResults = [] ∧ d.execution.brokerInvocations = 0 ∧
            d.execution.operationalEffects = 0 ∧ d.proposal.executableActions = []) := by
  obtain ⟨hevents, hreturned⟩ := Prog.permitted_of_trace fine_process h
  refine ⟨hevents, fun d hd => ?_⟩
  have hjustified : Justified lib engine case d := hreturned d hd
  exact ⟨hjustified.actions, hjustified.containment, hjustified.readOnly⟩

end Runs

/-! ## §5 An example -/

section Example

/-- A library with one text for every time and digest. -/
def sampleLibrary : Library where
  fromisoformat _ := some (.aware 60000000)
  isoformat _ := some "1970-01-01T00:01:00+00:00"
  intOfText _ := none
  search _ _ := false
  strOther _ := ""
  sha256 _ := "1"
  hmac _ _ := "signature"
  isPrintable _ := true

/-- A policy that contains without evidence. -/
def samplePolicy : PolicyConfig where
  policyId := .str "policy"
  version := .str "1"
  thresholds := [("no_action_max_probability", .int 0), ("human_escalation_min_probability", .int 1),
    ("autonomous_containment_min_probability", .int 1)]
  evidence := [("minimum_quality", .int 0), ("minimum_provenance_ratio", .int 0),
    ("minimum_integrity_verified_ratio", .int 0), ("minimum_independent_supporting_sources", .int 0),
    ("maximum_missing_expected_sources_for_decision", .int 7),
    ("maximum_conflicts_for_automation", .int 0)]
  authority := [("maximum_asset_criticality_for_automation", .int 1),
    ("break_glass_requires_human", .bool true),
    ("autonomous_actions", .arr [.str "increase_monitoring"]),
    ("human_only_actions", .arr [.str "disable_account"])]
  safety := [("poisoned_evidence_blocks_automation", .bool true),
    ("authorization_token_ttl_seconds", .int 60)]

def sampleCase : IdentityCase where
  caseId := "case"
  subjectId := "subject"
  privilegeLevel := "user"
  breakGlass := false
  assetId := "asset"
  assetCriticality := .int 0
  events := []

/-- The engine of the policy with a model that is certain. -/
def sampleEngine (mode : ExecutionMode) : DecisionFirewallEngine ℚ where
  assess _ := .ok ⟨1, "model", [], [], [], []⟩
  config := samplePolicy
  mode := mode
  signingKey := "key"

/-- One answer for every operation. -/
def sampleAnswers : (o : Op) → Ans o
  | .append _ _ => .ok ()
  | .now => 0
  | .uuid => "id"
  | .latency => .int 0
  | .initializeCase _ => ()
  | .apply _ action => .ok (rejected action "")

/-- What the run of an engine decides of a case, with the executions it went through. -/
def sampleResult (mode : ExecutionMode) : Option (Disposition × Bool × Nat) :=
  match (process sampleLibrary (sampleEngine mode) sampleCase).answer sampleAnswers with
  | .ok d => some (d.proposal.disposition, d.execution.token.isSome, d.execution.brokerInvocations)
  | .error _ => none

theorem sampleResult_simulation :
    sampleResult .syntheticSimulation = some (.containReversible, true, 1) := by
  decide +kernel

/-- A run in which an action is authorized and executed. -/
theorem sample_run : ∃ history d,
    Trace (process sampleLibrary (sampleEngine .syntheticSimulation) sampleCase) history (.ret d) ∧
      d.execution.token.isSome = true ∧ d.execution.brokerInvocations = 1 := by
  have hresult := sampleResult_simulation
  unfold sampleResult at hresult
  split at hresult
  · rename_i d hrun
    obtain ⟨history, htrace⟩ := Prog.trace_of_answer hrun
    rw [Option.some.injEq, Prod.mk.injEq, Prod.mk.injEq] at hresult
    exact ⟨history, d, htrace, hresult.2.1, hresult.2.2⟩
  · cases hresult

theorem verifier_passes_iff_example : ∃ a : Assessed ℚ,
    IsAssessed sampleLibrary (sampleEngine .syntheticSimulation) sampleCase a ∧
      a.verification.passed = true ∧
        (a.proposal.disposition = .containReversible → a.proposal.executableActions ≠ []) := by
  obtain ⟨history, d, htrace, htoken, -⟩ := sample_run
  have hjustified := (Prog.permitted_of_trace fine_process htrace).2 d rfl
  obtain ⟨a, ha, -, -, hverification, -, -, -⟩ := hjustified.rests
  have hpassed : a.verification.passed = true := by
    rw [← hverification]
    exact (hjustified.actions (.inr (.inr (.inl htoken)))).1
  have hfacts := (verifier_passes_iff ha.evidence ha.proposal ha.verification).mp hpassed
  exact ⟨a, ha, hpassed, fun hcontain => (hfacts.2.2 hcontain).2.2.1⟩

theorem executes_only_what_is_cleared_example : ∃ history d,
    Trace (process sampleLibrary (sampleEngine .syntheticSimulation) sampleCase) history (.ret d) ∧
      d.execution.brokerInvocations = 1 ∧ d.verification.passed = true ∧
        ∀ event ∈ history,
          Permits sampleLibrary (sampleEngine .syntheticSimulation) sampleCase event.op := by
  obtain ⟨history, d, htrace, htoken, hinvocations⟩ := sample_run
  obtain ⟨hevents, hreturned⟩ := executes_only_what_is_cleared htrace
  have hpassed := ((hreturned d rfl).1 (.inr (.inr (.inl htoken)))).1
  exact ⟨history, d, htrace, hinvocations, hpassed, hevents⟩

end Example

end DecisionFirewall.Engine
