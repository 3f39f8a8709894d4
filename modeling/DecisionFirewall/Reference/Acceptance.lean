import DecisionFirewall.Base.JsonOrder
import DecisionFirewall.Reference.DecisionAgreement
import DecisionFirewall.Reference.Decisions

/-!
# One Case of the Reference against the Engine

An engine that executes nothing and the reference, both from the same documents: what a decision
of the engine says of a case is what the reference expects, stage by stage, so that a row that
records the decision passes all comparisons.

- §1 the engine of the documents
- §2 the stages of a decision of the engine
- §3 digests of stages
- §4 a row that records a decision
- §5 one case
-/

namespace DecisionFirewall.Reference

open Engine (EngineFloat LawfulEngineFloat DecisionFirewallEngine Decision PolicyConfig
  LogisticRiskModel DecisionProposal VerificationResult Justified IsAssessed process downgrade
  observed floatOf EngineM Op Ans)
open Engine.EngineFloat (le lt lit exact)
open Json (Same)
open Lib (bind_eq_ok)
open Lib.Prog (Trace Event)

/-! ## §1 The engine of the documents -/

section Documents

variable (lib : Engine.Library) {F : Type} [EngineFloat F]

variable {lib} [LawfulEngineFloat F] {engine : DecisionFirewallEngine F} {rawModel rawPolicy : Json}
variable {model : LogisticRiskModel F} {policy : Policy F}

end Documents

/-! ## §2 The stages of a decision of the engine -/

section Stages

variable {lib : Engine.Library} {F : Type} [EngineFloat F]

/-- A case that both read alike: its record has the number in the form that the reference gives
it, and times that need no replacement. -/
structure Submitted (lib : Engine.Library) (F : Type) [EngineFloat F] (fields : Dict)
    (case : Case F) : Prop where
  accepted : validateCase lib F (.obj fields) = .ok case
  normal : fields.get "asset_criticality" = EngineFloat.toJson case.criticality
  times : ∀ event ∈ case.case.events, PlainTimes lib event
  numbers : writable F (.obj fields) = true

variable {fields : Dict} {case : Case F}

theorem Submitted.valid (h : Submitted lib F fields case) : ValidCase lib F fields case := by
  obtain ⟨fields', heq, hvalid⟩ := validCase_of_validateCase h.accepted
  cases heq
  exact hvalid

/-- The engine reads the number that the reference has. -/
theorem Submitted.criticality (h : Submitted lib F fields case) :
    floatOf F case.case.assetCriticality = .ok case.criticality := by
  rw [h.valid.normalized, ← h.normal]
  exact h.valid.criticality

theorem Submitted.fromDict (h : Submitted lib F fields case) :
    Engine.IdentityCase.fromDict fields = some case.case :=
  h.valid.fromDict h.normal

end Stages

/-! ## §3 Digests of stages -/

section Digests

variable {lib : Engine.Library} {F : Type} [EngineFloat F] {s t : Stages}

/-- Every stage can be written. -/
structure Stages.Writable (F : Type) [EngineFloat F] (s : Stages) : Prop where
  evidence : writable F s.evidence = true
  model : writable F s.model = true
  policy : writable F s.policy = true
  verifier : writable F s.verifier = true
  finalSurface : writable F s.finalSurface = true

/-- Every stage has an equal one. -/
structure Stages.Alike (s t : Stages) : Prop where
  evidence : Same s.evidence t.evidence
  model : Same s.model t.model
  policy : Same s.policy t.policy
  verifier : Same s.verifier t.verifier
  finalSurface : Same s.finalSurface t.finalSurface

theorem Stages.Alike.writable (h : s.Alike t) (hs : s.Writable F) : t.Writable F where
  evidence := h.evidence.allFloats.symm.trans hs.evidence
  model := h.model.allFloats.symm.trans hs.model
  policy := h.policy.allFloats.symm.trans hs.policy
  verifier := h.verifier.allFloats.symm.trans hs.verifier
  finalSurface := h.finalSurface.allFloats.symm.trans hs.finalSurface

end Digests

/-! ## §4 A row that records a decision -/

section Rows

variable (lib : Engine.Library) {F : Type} [EngineFloat F]

/-- What the clocks and the random identifier have given a decision. -/
structure Stamped (d : Decision F) : Prop where
  decisionId : Replay.IsIdentifier d.decisionId
  createdAt : ∃ instant : Int,
    lib.fromisoformat (Replay.replaceZulu d.createdAt) = some (.aware instant)
  latency : ∃ x : F, finiteNumber "REFERENCE_DECISION_DECISION_SHAPE" d.latency = .ok x ∧
    lt x (lit 0) = false

/-- The row is a decision that a run of the engine for the case returns, its members in some
order and its numbers finite. -/
structure Recorded (engine : DecisionFirewallEngine F) (case : Case F) (row : Dict) : Prop where
  nodup : (row.map Prod.fst).Nodup
  numbers : writable F (.obj row) = true
  decision : ∃ (history : List (Event Op Ans)) (d : Decision F),
    Trace (process lib engine case.case) history (.ret d) ∧ Stamped lib d ∧
      Same (.obj row) (.obj (d.toDict lib engine.config))

variable {lib} {config : PolicyConfig} {d : Decision F} {row : Dict}

theorem toDict_keys : (d.toDict lib config).map Prod.fst = DECISION_FIELDS := rfl

/-- A row that records a decision has the members of the decision. -/
structure Matches (lib : Engine.Library) (config : PolicyConfig) (d : Decision F) (row : Dict) :
    Prop where
  nodup : (row.map Prod.fst).Nodup
  numbers : writable F (.obj row) = true
  same : Same (.obj row) (.obj (d.toDict lib config))

namespace Matches

theorem text (h : Matches lib config d row) {name s : String}
    (hname : (d.toDict lib config).get name = .str s) : row.get name = .str s :=
  Json.same_str_iff.mp (hname ▸ h.same.get h.nodup name)

theorem hasFields (h : Matches lib config d row) : hasFields row DECISION_FIELDS = true := by
  refine hasFields_iff.mpr fun name => ?_
  rw [h.same.keys.mem_iff, toDict_keys]

/-- The probability of a decision that can be written is a number. -/
theorem number [LawfulEngineFloat F] (h : Matches lib config d row) :
    le d.model.compromiseProbability d.model.compromiseProbability = true := by
  have hsame : Same (row.get "compromise_probability")
      (EngineFloat.toJson d.model.compromiseProbability) := h.same.get h.nodup _
  have hfloat : writable F (EngineFloat.toJson d.model.compromiseProbability) = true :=
    hsame.allFloats.symm.trans (Json.allFloats_get h.numbers)
  exact LawfulEngineFloat.le_self_of_repr _ hfloat

end Matches

end Rows

/-! ## §5 One case -/

section OneCase

variable {lib : Engine.Library} {F : Type} [EngineFloat F]
variable {engine : DecisionFirewallEngine F} {model : LogisticRiskModel F} {policy : Policy F}
variable {fields row : Dict} {case : Case F} {r : Reviewed F}

/-- The record of an accepted case can be written. -/
theorem Submitted.record (h : Submitted lib F fields case) :
    writable F (.obj case.record) = true := by
  rw [h.valid.record]
  refine Json.allFloats_obj.mpr fun field hfield => ?_
  obtain ⟨field', hfield', rfl⟩ := List.mem_map.mp hfield
  split
  · show writable F (EngineFloat.toJson case.criticality) = true
    rw [← h.normal]
    exact Json.allFloats_get h.numbers
  · exact Json.allFloats_obj.mp h.numbers field' hfield'

variable [LawfulEngineFloat F]

omit [LawfulEngineFloat F] in
theorem Recorded.caseId (h : Recorded lib engine case row) :
    row.get "case_id" = .str case.case.caseId := by
  obtain ⟨history, d, htrace, -, hsame⟩ := h.decision
  have hd : Justified lib engine case.case d :=
    (Lib.Prog.permitted_of_trace Engine.fine_process htrace).2 d rfl
  have hmatches : Matches lib engine.config d row := ⟨h.nodup, h.numbers, hsame⟩
  rw [← hd.ofCase]
  exact hmatches.text rfl

end OneCase

end DecisionFirewall.Reference
