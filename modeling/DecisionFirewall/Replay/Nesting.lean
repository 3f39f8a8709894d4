import DecisionFirewall.Base.JsonRead
import DecisionFirewall.Replay.Qualification

/-!
# Nesting Before Decoding

Three documents are scanned for their nesting before `json.loads` sees them: the lines of a
case file, the control documents of Gate B and the inputs of the reference decision. What the
scan promises of a decoder is `jsonNestingDepthExceeded_exact`.
-/

namespace DecisionFirewall.Replay

open Lib.JsonDecoder (Dialect Shape Text Space)

namespace GateB

def MAX_CONTROL_JSON_NESTING_DEPTH : Nat := 128

/-- `_json_nesting_depth_exceeded(text)` of `gate_b.py`. -/
def jsonNestingDepthExceeded (text : String) : Bool :=
  Lib.Nesting.exceeds MAX_CONTROL_JSON_NESTING_DEPTH 0 false false text.toList

end GateB

namespace ReferenceDecision

def MAX_JSON_NESTING_DEPTH : Nat := 128

/-- `_json_nesting_depth_exceeded(text)` of `reference_decision.py`. -/
def jsonNestingDepthExceeded (text : String) : Bool :=
  Lib.Nesting.exceeds MAX_JSON_NESTING_DEPTH 0 false false text.toList

end ReferenceDecision

/-- The scanners of the three documents. -/
def scanners : List (String → Bool) :=
  [jsonNestingDepthExceeded, GateB.jsonNestingDepthExceeded,
    ReferenceDecision.jsonNestingDepthExceeded]

/-- JSON without the constants that the hooks refuse. -/
def strictDialect : Dialect where
  word w := w == "null".toList || w == "true".toList || w == "false".toList ||
    isIntLiteral w || isFloatLiteral w
  raw c := 32 ≤ c.toNat
  escape c := c = '"' || c = '\\' || c = '/' || c = 'b' || c = 'f' || c = 'n' || c = 'r' || c = 't'

theorem scanners_eq {scanner : String → Bool} (h : scanner ∈ scanners) (text : String) :
    scanner text = Lib.Nesting.exceeds 128 0 false false text.toList := by
  simp only [scanners, List.mem_cons, List.not_mem_nil, or_false] at h
  rcases h with rfl | rfl | rfl <;> rfl

/-- Where a scanner finds nothing, no decoder has more than 128 arrays and objects open when
it has read a part of the text without an error; on a valid text, which the decoder accepts, a
scanner finds something exactly where more than 128 of them are around each other. -/
theorem jsonNestingDepthExceeded_exact {scanner : String → Bool} (h : scanner ∈ scanners)
    (d : Dialect) (text : String) :
    (scanner text = false → ∀ before s, before <+: text.toList →
      Lib.JsonDecoder.State.start.run d before = some s → s.opened.length ≤ 128) ∧
    ∀ shape, Text d shape text.toList → (scanner text = true ↔ 128 < shape.height) ∧
      ∃ s, Lib.JsonDecoder.State.start.run d text.toList = some s ∧ s.Accepting d := by
  rw [scanners_eq h]
  constructor
  · rintro hscan before s ⟨after, hafter⟩ hrun
    rw [← hafter] at hscan
    exact Lib.Nesting.length_opened_le hrun (Nat.zero_le _) hscan
  · intro shape hshape
    refine ⟨?_, Lib.JsonDecoder.accepts_of_text hshape⟩
    rw [Lib.Nesting.exceeds_text hshape, decide_eq_true_eq]

theorem jsonNestingDepthExceeded_exact_example :
    (∀ before s, before <+: "[]".toList →
      Lib.JsonDecoder.State.start.run strictDialect before = some s → s.opened.length ≤ 128) ∧
    (jsonNestingDepthExceeded "[]" = true ↔ 128 < (Shape.array []).height) := by
  have hmem : jsonNestingDepthExceeded ∈ scanners := List.mem_cons_self
  have htext : Text strictDialect (.array []) "[]".toList :=
    ⟨[], ['[', ']'], [], List.forall_mem_nil _, .emptyArray (List.forall_mem_nil _),
      List.forall_mem_nil _, rfl⟩
  obtain ⟨hbound, hexact⟩ := jsonNestingDepthExceeded_exact hmem strictDialect "[]"
  exact ⟨hbound (by rfl), (hexact _ htext).1⟩

end DecisionFirewall.Replay
