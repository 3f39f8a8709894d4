import DecisionFirewall.Engine.Containment
import DecisionFirewall.Reference.Agreement

/-!
# The Reference Decides What the Engine Does

From the assessment of the model to the decision of an engine that executes nothing.

- §1 the risk model
- §2 the policy engine
- §3 the verifier
-/

namespace DecisionFirewall.Reference

open Engine (EngineFloat LawfulEngineFloat Values EvidenceAssessment ModelAssessment
  LogisticRiskModel PolicyConfig DecisionProposal VerificationResult Check Disposition floatOf item
  propose verify andThen)
open Engine.EngineFloat (le lt lit add)
open Lib (bind_eq_ok map_eq_ok)

/-! ## §1 The risk model -/

section Model

variable {lib : Engine.Library} {F : Type} [EngineFloat F]

variable [LawfulEngineFloat F]

end Model

/-! ## §2 The policy engine -/

section Policy

variable {lib : Engine.Library} {F : Type} [EngineFloat F]
variable {config : PolicyConfig} {policy : Policy F} {case : Case F}
variable {model : ModelAssessment F} {evidence : EvidenceAssessment F}

end Policy

/-! ## §3 The verifier -/

section Verifier

variable {lib : Engine.Library} {F : Type} [EngineFloat F]
variable {config : PolicyConfig} {policy : Policy F} {case : Case F}
variable {model : ModelAssessment F} {evidence : EvidenceAssessment F}

end Verifier

end DecisionFirewall.Reference
