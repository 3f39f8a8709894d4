import DecisionFirewall.Base.PyVal
import DecisionFirewall.Lab.JournalAppend
import DecisionFirewall.Lib.Prog

/-!
# The Lab Executor

`LabExecutorService.handle` of `adf_poc/lab_services.py`: an authenticated command is
answered from the journal, or it is reserved, applied at most once, and completed with its
signed receipt.

- §1 observations and results
- §2 the handler
- §3 its surroundings
- §4 histories of calls

The handler is a program over the operations that can fail or stop the process. The state
is the journal and, for the statements about it, the keys under which the action has been
entered.
-/

namespace DecisionFirewall.Lab

open Lib
open Phase3 (Primitives Bytes)

/-! ## §1 Observations and results -/

structure LabObservedState where
  targetBootId : String
  beaconReachable : Bool
  managementReachable : Bool
  rulesetSha256 : String
  deriving DecidableEq, Repr

/-- `_validate_observed_state` accepts. -/
def LabObservedState.Valid (s : LabObservedState) : Prop :=
  s.targetBootId ≠ "" ∧ s.targetBootId.length ≤ 128 ∧ IsSha256 s.rulesetSha256

instance decidableObservedValid (s : LabObservedState) : Decidable s.Valid :=
  inferInstanceAs (Decidable (_ ∧ _ ∧ _))

/-- A mutation result, with fields of any kind. -/
structure LabMutationResult where
  status : PyVal
  effectPossible : PyVal
  reasonCode : PyVal
  poststateSha256 : PyVal
  deriving Repr

/-- A result with fields of the declared kinds. -/
def LabMutationResult.of (status : String) (effectPossible : Bool)
    (reasonCode poststateSha256 : String) : LabMutationResult :=
  ⟨.str status, .bool effectPossible, .str reasonCode, .str poststateSha256⟩

/-- The closed outcomes of the mutation boundary. -/
def mutationOutcomes : List (String × Bool × String) :=
  [("APPLIED", true, "RULESET_APPLIED"), ("NO_EFFECT", false, "REJECTED_PRE_EFFECT"),
    ("PARTIAL", true, "PARTIAL_RULESET"), ("AMBIGUOUS", true, "EFFECT_UNCERTAIN")]

/-- The text that a value is. -/
def strOf : PyVal → Option String
  | .str s => some s
  | _ => none

/-- `value == b`: a number can equal a boolean. -/
def equalsBool (lib : JsonLibrary) (b : Bool) : PyVal → Bool
  | .bool c => decide (c = b)
  | .int n => decide (n = if b then 1 else 0)
  | .float repr => decide (lib.floatInteger repr = some (if b then 1 else 0))
  | _ => false

/-- `_validate_mutation_result` accepts. -/
def LabMutationResult.Valid (lib : JsonLibrary) (r : LabMutationResult) (prestateSha256 : String) :
    Prop :=
  ∃ status ∈ strOf r.status, ∃ outcome ∈ mutationOutcomes.lookup status,
    ∃ poststate ∈ strOf r.poststateSha256,
      equalsBool lib outcome.1 r.effectPossible = true ∧ strOf r.reasonCode = some outcome.2 ∧
        IsSha256 poststate ∧ (status = "NO_EFFECT" → poststate = prestateSha256) ∧
        (status = "APPLIED" → poststate ≠ prestateSha256)

instance decidableMutationValid (lib : JsonLibrary) (r : LabMutationResult)
    (prestateSha256 : String) : Decidable (r.Valid lib prestateSha256) :=
  inferInstanceAs (Decidable (∃ status ∈ strOf r.status, _))

/-! ## §2 The handler -/

/-- Where `failure_hook` is called. -/
inductive Stage where
  | afterReservation
  | afterEffect
  | afterCompletion
  deriving DecidableEq, Repr

/-- What the handler calls. -/
inductive ExecutorOp where
  | clock
  | replayIfKnown (key digest : String)
  | reserveOrReplay (key digest recordedAt : String)
  | complete (key digest receiptJson recordedAt : String)
  | failureHook (stage : Stage)
  | readState
  | applyAction (command : Dict) (prestate : LabObservedState)

/-- The answers; an error is the reason code of an exception, `none` an exception that the
handler catches, or a value of another type, which makes one. -/
def ExecutorOp.Ans : ExecutorOp → Type
  | .clock => Int
  | .replayIfKnown _ _ => Except String (Option String)
  | .reserveOrReplay _ _ _ => Except String (Option String)
  | .complete _ _ _ _ => Except String Unit
  | .failureHook _ => Unit
  | .readState => Option LabObservedState
  | .applyAction _ _ => Option LabMutationResult

abbrev ExecutorProg (α : Type) := Prog ExecutorOp ExecutorOp.Ans String α

/-! Each operation, as a program. -/

def readClock : ExecutorProg Int := Prog.perform ExecutorOp.clock

def askReplay (key digest : String) : ExecutorProg (Except String (Option String)) :=
  Prog.perform (ExecutorOp.replayIfKnown key digest)

def askReserve (key digest recordedAt : String) : ExecutorProg (Except String (Option String)) :=
  Prog.perform (ExecutorOp.reserveOrReplay key digest recordedAt)

def askComplete (key digest receiptJson recordedAt : String) : ExecutorProg (Except String Unit) :=
  Prog.perform (ExecutorOp.complete key digest receiptJson recordedAt)

def failureHook (stage : Stage) : ExecutorProg Unit := Prog.perform (ExecutorOp.failureHook stage)

def readState : ExecutorProg (Option LabObservedState) := Prog.perform ExecutorOp.readState

def applyAction (command : Dict) (prestate : LabObservedState) :
    ExecutorProg (Option LabMutationResult) :=
  Prog.perform (ExecutorOp.applyAction command prestate)

/-- `LabExecutorService`, without its callables. -/
structure LabExecutorService where
  keyId : String
  key : Bytes
  effectsEnabled : Bool
  keyIdValid : IsLabIdentifier keyId
  keyValid : 32 ≤ key.length

namespace LabExecutorService

variable (rt : Runtime) (lib : JsonLibrary) (crypto : Primitives) (service : LabExecutorService)

/-- `preconditions_hold` for a state that was read. -/
def PreconditionsHold (command : Dict) (prestate : LabObservedState) : Prop :=
  prestate.targetBootId = textOf command "target_boot_id" ∧
    prestate.rulesetSha256 = textOf command "prestate_sha256" ∧
    prestate.beaconReachable = true ∧ prestate.managementReachable = true

instance decidablePreconditionsHold (command : Dict) (prestate : LabObservedState) :
    Decidable (PreconditionsHold command prestate) :=
  inferInstanceAs (Decidable (_ ∧ _ ∧ _ ∧ _))

/-- The outcome before the mutation port is entered. -/
def preEffect (command : Dict) (prestate : Option LabObservedState) : LabMutationResult :=
  .of "NO_EFFECT" false
    (if prestate.isNone then "TARGET_UNAVAILABLE_PRE_EFFECT" else "REJECTED_PRE_EFFECT")
    (if prestate.isNone then ZERO_DIGEST else textOf command "prestate_sha256")

/-- The outcome once it has been entered. -/
def postEffect (command : Dict) (result : Option LabMutationResult) : LabMutationResult :=
  match result.filter fun r => r.Valid lib (textOf command "prestate_sha256") with
  | some r => r
  | none => .of "AMBIGUOUS" true "EFFECT_UNCERTAIN" ZERO_DIGEST

/-- The mutation, where its preconditions hold. -/
def attempt (command : Dict) (prestate : Option LabObservedState) :
    ExecutorProg LabMutationResult :=
  match prestate with
  | none => .ret (preEffect command none)
  | some state =>
    if PreconditionsHold command state ∧ service.effectsEnabled = true then do
      let result ← applyAction command state
      failureHook .afterEffect
      return postEffect lib command result
    else .ret (preEffect command (some state))

/-- The receipt before it is signed. -/
def unsignedReceipt (command : Dict) (digest timestamp : String) (outcome : LabMutationResult) :
    Dict :=
  [("schema_version", .str SCHEMA_VERSION),
    ("message_type", .str RECEIPT),
    ("lab_session_id", command.get "lab_session_id"),
    ("request_id", command.get "request_id"),
    ("decision_id", command.get "decision_id"),
    ("authorization_id", command.get "authorization_id"),
    ("command_sha256", .str digest),
    ("idempotency_key", command.get "idempotency_key"),
    ("target_id", command.get "target_id"),
    ("target_boot_id", command.get "target_boot_id"),
    ("sequence", command.get "sequence"),
    ("status", outcome.status.toJson),
    ("effect_possible", outcome.effectPossible.toJson),
    ("reason_code", outcome.reasonCode.toJson),
    ("prestate_sha256", command.get "prestate_sha256"),
    ("poststate_sha256", outcome.poststateSha256.toJson),
    ("executed_at", .str timestamp),
    ("recorded_at", .str timestamp)]

/-- The handler once the command is reserved. -/
def performReserved (now : Int) (command : Dict) (digest : String) : ExecutorProg String := do
  let timestamp := rt.isoformat now
  failureHook .afterReservation
  let observed ← readState
  let outcome ← service.attempt lib command (observed.filter fun s => s.Valid)
  let receipt ← Prog.ofExcept (signLabMessage rt lib crypto .receipt service.keyId service.key now
    (unsignedReceipt command digest timestamp outcome))
  let receiptJson := canonicalJson (.obj receipt)
  let completed ← askComplete (textOf command "idempotency_key") digest receiptJson timestamp
  Prog.ofExcept completed
  failureHook .afterCompletion
  return receiptJson

/-- A stored receipt is checked again before it is returned. -/
def answerStored (now : Int) (digest receiptJson : String) : Except String String := do
  let receipt ← loadAuthenticatedLabMessage rt lib crypto .receipt service.keyId service.key now
    false receiptJson.utf8ByteSize (strictJsonLoads lib receiptJson)
  if textOf receipt "command_sha256" = digest then .ok receiptJson
  else .error "LAB_JOURNAL_CORRUPT"

/-- The handler of a command that the journal does not know. -/
def handleUnknown (now : Int) (command : Dict) (digest : String) : ExecutorProg String := do
  let command ← Prog.ofExcept (validateLabMessageDict rt lib .command command now false)
  let intake ← askReserve (textOf command "idempotency_key") digest (rt.isoformat now)
  match intake with
  | .error e => .raise e
  | .ok (some receiptJson) => Prog.ofExcept (service.answerStored rt lib crypto now digest receiptJson)
  | .ok none => service.performReserved rt lib crypto now command digest

/-- The command in some bytes, authenticated, expired or not. -/
def commandOf (now : Int) (raw : Bytes) : Except String Dict :=
  loadAuthenticatedLabMessage rt lib crypto .command service.keyId service.key now true raw.length
    (strictJsonLoadsBytes lib raw)

/-- The handler of an authenticated command. -/
def handleCommand (now : Int) (command : Dict) : ExecutorProg String := do
  let digest := labMessageSha256 rt command
  let known ← askReplay (textOf command "idempotency_key") digest
  match known with
  | .error e => .raise e
  | .ok (some receiptJson) => Prog.ofExcept (service.answerStored rt lib crypto now digest receiptJson)
  | .ok none => service.handleUnknown rt lib crypto now command digest

/-- `handle(raw)`; the answer is the UTF-8 text of the bytes that are returned. -/
def handle (raw : Bytes) : ExecutorProg String := do
  let clock ← readClock
  let now := Runtime.truncate clock
  let command ← Prog.ofExcept (service.commandOf rt lib crypto now raw)
  service.handleCommand rt lib crypto now command

end LabExecutorService

/-! ## §3 The surroundings -/

/-- How a transaction of the journal is cut short: before it does anything, or with some of
its bytes written, whatever it answers then. -/
inductive JournalFault where
  | none
  | unavailable
  | broken (written : Nat)
  deriving DecidableEq, Repr

/-- What happens around one call: what the operations answer, and where one of them raises
past the handler or the process stops. -/
structure Surroundings where
  /-- the reading of the clock -/
  clock : Option Int
  replayFault : Bool
  reserveFault : JournalFault
  completeFault : JournalFault
  stopsAt : Stage → Bool
  /-- `none` stops the call, `some none` is an exception that is caught -/
  readState : Option (Option LabObservedState)
  applyAction : Dict → LabObservedState → Option (Option LabMutationResult)

structure World where
  journal : Bytes
  /-- the keys of the commands with which `apply_action` was entered -/
  entered : List String
  deriving DecidableEq, Repr

namespace Surroundings

variable (rt : Runtime) (lib : JsonLibrary) (around : Surroundings) (w : World)

/-- A write behind the journal. -/
def write (fault : JournalFault) (payload : Bytes) : Option Unit × World :=
  match fault with
  | .none => (some (), { w with journal := w.journal ++ payload })
  | .unavailable => (none, w)
  | .broken n => (none, { w with journal := w.journal ++ payload.take n })

/-- A transaction that is not reached, refused, or writes. -/
def transact (fault : JournalFault) (answer : Except String Bytes) :
    Option (Except String Unit) × World :=
  if fault = .unavailable then (none, w)
  else match answer with
    | .error e => (some (.error e), w)
    | .ok payload => ((write w fault payload).1.map .ok, (write w fault payload).2)

/-- `reserve_or_replay` in its surroundings. -/
def intake (key digest recordedAt : String) : Option (Except String (Option String)) × World :=
  if around.reserveFault = .unavailable then (none, w)
  else match reserveOrReplay rt lib w.journal key digest recordedAt with
    | .error e => (some (.error e), w)
    | .ok (.replayed receiptJson) => (some (.ok (some receiptJson)), w)
    | .ok (.reserved payload) =>
      ((write w around.reserveFault payload).1.map fun _ => .ok none,
        (write w around.reserveFault payload).2)

/-- What an operation answers and leaves. -/
def answer : (o : ExecutorOp) → Option o.Ans × World
  | .clock => (around.clock, w)
  | .replayIfKnown key digest =>
    (if around.replayFault then none else some (replayIfKnown rt lib w.journal key digest), w)
  | .reserveOrReplay key digest recordedAt => around.intake rt lib w key digest recordedAt
  | .complete key digest receiptJson recordedAt =>
    transact w around.completeFault (complete rt lib w.journal key digest receiptJson recordedAt)
  | .failureHook stage => (if around.stopsAt stage then none else some (), w)
  | .readState => (around.readState, w)
  | .applyAction command prestate =>
    (around.applyAction command prestate,
      { w with entered := w.entered ++ [textOf command "idempotency_key"] })

end Surroundings

/-! ## §4 Histories -/

/-- One call, by whatever process serves the journal at the time. -/
structure Call where
  service : LabExecutorService
  raw : Bytes
  around : Surroundings

/-- A call with what it found, how it ended and what it left. -/
structure Turn where
  call : Call
  before : World
  outcome : Prog.Outcome String String
  after : World

section Histories

variable (rt : Runtime) (lib : JsonLibrary) (crypto : Primitives)

/-- The command of a call: its clock is read and its bytes are authenticated. -/
def Call.command? (c : Call) : Option Dict :=
  c.around.clock.bind fun t => (c.service.commandOf rt lib crypto (Runtime.truncate t) c.raw).toOption

def Call.run (c : Call) (w : World) : Prog.Outcome String String × World :=
  (c.service.handle rt lib crypto c.raw).exec (c.around.answer rt lib) w

def turn (w : World) (c : Call) : Turn where
  call := c
  before := w
  outcome := (c.run rt lib crypto w).1
  after := (c.run rt lib crypto w).2

/-- The calls one after the other on one journal. -/
def history (w : World) : List Call → List Turn
  | [] => []
  | c :: calls => turn rt lib crypto w c :: history (turn rt lib crypto w c).after calls

end Histories

end DecisionFirewall.Lab
