import DecisionFirewall.Audit.Logger
import DecisionFirewall.Engine.Targets
import DecisionFirewall.Lab.Capacity
import DecisionFirewall.Lab.Loader
import DecisionFirewall.Lib.Prog
import DecisionFirewall.Metrics.RowOrder
import DecisionFirewall.Phase3.Accounting
import DecisionFirewall.Phase3.Agreement
import DecisionFirewall.Phase3.ApprovalReceipts
import DecisionFirewall.Phase3.ConsequenceOrder
import DecisionFirewall.Phase3.Contribution
import DecisionFirewall.Phase3.Permits
import DecisionFirewall.Phase3.Poisoning
import DecisionFirewall.Phase3.Records
import DecisionFirewall.Reference.Verification
import DecisionFirewall.Replay.Classification
import DecisionFirewall.Replay.Nesting
import DecisionFirewall.Replay.Normalizer
import DecisionFirewall.Replay.Pilot
import DecisionFirewall.Replay.Quarantine
import DecisionFirewall.Replay.SecureOutput
import DecisionFirewall.Replay.StopConditions
import DecisionFirewall.Service.Application
import DecisionFirewall.StageA.AdapterChain
import DecisionFirewall.StageA.LedgerAgreement
import DecisionFirewall.StageA.Snapshots
