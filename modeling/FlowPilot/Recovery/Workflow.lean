import FlowPilot.Lib.Escape
import FlowPilot.Planning.Dag
import FlowPilot.Recovery.Schemas
import Mathlib.Data.List.Chain

/-!
# The durable recovery workflow

`DurableRecoveryWorkflow.run`.  The activities answer as a script says.  The variables of the run
outlive the exception that leaves the main loop: the cleanup and the result read them.
-/

open FlowPilot.Lib
open FlowPilot.Planning (StepId)

namespace FlowPilot.Recovery.Workflow

/-! ## Usage -/

/-- The fields of `PlanningUsage`. -/
inductive Counter where
  | planGenerations | planNodes | planEdges | planDepth | planSerializedBytes | toolMatches
  | toolRejections | verifierCalls | verifierProbes | executedSteps | blockedSteps | workerActions
  | modelCalls | switches | routeDecisions | domObservations | domObservationBytes
  | compressedDomBytes | images | imageBytes | imagePixels | captureMs | inputTokens
  | outputTokens | planningInputTokens | planningOutputTokens | verifierInputTokens
  | verifierOutputTokens | costMicrousd | planningCostMicrousd | verifierCostMicrousd
  | contextAssemblies | contextItems | contextBytes | contextTokens | retrievalQueries
  | retrievalCandidates | retrievalSelected | summaryInputs | summaryOutputs | summaryDropped
  | memoryReads | memoryWrites | memoryDeletes | memoryRejections | elapsedMs
  deriving DecidableEq, Repr

def Counter.name : Counter → String
  | planGenerations => "plan_generations" | planNodes => "plan_nodes" | planEdges => "plan_edges"
  | planDepth => "plan_depth" | planSerializedBytes => "plan_serialized_bytes"
  | toolMatches => "tool_matches" | toolRejections => "tool_rejections"
  | verifierCalls => "verifier_calls" | verifierProbes => "verifier_probes"
  | executedSteps => "executed_steps" | blockedSteps => "blocked_steps"
  | workerActions => "worker_actions" | modelCalls => "model_calls" | switches => "switches"
  | routeDecisions => "route_decisions" | domObservations => "dom_observations"
  | domObservationBytes => "dom_observation_bytes" | compressedDomBytes => "compressed_dom_bytes"
  | images => "images" | imageBytes => "image_bytes" | imagePixels => "image_pixels"
  | captureMs => "capture_ms" | inputTokens => "input_tokens" | outputTokens => "output_tokens"
  | planningInputTokens => "planning_input_tokens"
  | planningOutputTokens => "planning_output_tokens"
  | verifierInputTokens => "verifier_input_tokens"
  | verifierOutputTokens => "verifier_output_tokens" | costMicrousd => "cost_microusd"
  | planningCostMicrousd => "planning_cost_microusd"
  | verifierCostMicrousd => "verifier_cost_microusd" | contextAssemblies => "context_assemblies"
  | contextItems => "context_items" | contextBytes => "context_bytes"
  | contextTokens => "context_tokens" | retrievalQueries => "retrieval_queries"
  | retrievalCandidates => "retrieval_candidates" | retrievalSelected => "retrieval_selected"
  | summaryInputs => "summary_inputs" | summaryOutputs => "summary_outputs"
  | summaryDropped => "summary_dropped" | memoryReads => "memory_reads"
  | memoryWrites => "memory_writes" | memoryDeletes => "memory_deletes"
  | memoryRejections => "memory_rejections" | elapsedMs => "elapsed_ms"

def Counter.all : List Counter :=
  [.planGenerations, .planNodes, .planEdges, .planDepth, .planSerializedBytes, .toolMatches,
    .toolRejections, .verifierCalls, .verifierProbes, .executedSteps, .blockedSteps,
    .workerActions, .modelCalls, .switches, .routeDecisions, .domObservations,
    .domObservationBytes, .compressedDomBytes, .images, .imageBytes, .imagePixels, .captureMs,
    .inputTokens, .outputTokens, .planningInputTokens, .planningOutputTokens,
    .verifierInputTokens, .verifierOutputTokens, .costMicrousd, .planningCostMicrousd,
    .verifierCostMicrousd, .contextAssemblies, .contextItems, .contextBytes, .contextTokens,
    .retrievalQueries, .retrievalCandidates, .retrievalSelected, .summaryInputs, .summaryOutputs,
    .summaryDropped, .memoryReads, .memoryWrites, .memoryDeletes, .memoryRejections, .elapsedMs]

theorem Counter.mem_all (c : Counter) : c ∈ Counter.all := by
  cases c <;> decide

abbrev PlanningUsage := Counter → Nat

def PlanningUsage.dump (u : PlanningUsage) : Json :=
  .obj (Counter.all.map fun c => (c.name, .num (u c)))

structure DurableUsage where
  activityAttempts : Nat := 0
  retries : Nat := 0
  sessionRecoveries : Nat := 0
  receiptCreates : Nat := 0
  receiptReplays : Nat := 0
  receiptMismatches : Nat := 0
  duplicateSideEffects : Nat := 0
  faults : Nat := 0
  replans : Nat := 0
  replacedNodes : Nat := 0
  workflowReplays : Nat := 0
  planningUsage : PlanningUsage := fun _ => 0

namespace DurableUsage

/-- The bounds of the fields: a usage is checked where it is read from JSON or put into a
checkpoint, and not by `model_copy`. -/
def InBounds (u : DurableUsage) : Prop :=
  u.activityAttempts ≤ 64 ∧ u.retries ≤ 16 ∧ u.sessionRecoveries ≤ 2 ∧ u.receiptCreates ≤ 24 ∧
    u.receiptReplays ≤ 24 ∧ u.receiptMismatches ≤ 24 ∧ u.duplicateSideEffects ≤ 24 ∧
    u.faults ≤ 2 ∧ u.replans ≤ 1 ∧ u.replacedNodes ≤ 16 ∧ u.workflowReplays ≤ 16

instance (u : DurableUsage) : Decidable u.InBounds := by unfold InBounds; infer_instance

def dump (u : DurableUsage) : Json :=
  .obj [("activity_attempts", .num u.activityAttempts), ("retries", .num u.retries),
    ("session_recoveries", .num u.sessionRecoveries), ("receipt_creates", .num u.receiptCreates),
    ("receipt_replays", .num u.receiptReplays),
    ("receipt_mismatches", .num u.receiptMismatches),
    ("duplicate_side_effects", .num u.duplicateSideEffects), ("faults", .num u.faults),
    ("replans", .num u.replans), ("replaced_nodes", .num u.replacedNodes),
    ("workflow_replays", .num u.workflowReplays),
    ("planning_usage", PlanningUsage.dump u.planningUsage)]

end DurableUsage

/-! ## Checkpoints -/

/-- A checkpoint without its hash. -/
structure CheckpointFields where
  workflowId : OpaqueId
  runId : OpaqueId
  taskId : TaskId
  planHash : Digest
  revision : Nat
  topology : List StepId
  completedStepIds : List StepId
  remainingStepIds : List StepId
  sessionEpoch : Nat
  absoluteDeadlineMs : Nat
  usage : DurableUsage
  receiptHashes : List Digest
  closedReason : String
  parentCheckpointHash : Digest

namespace CheckpointFields

def InBounds (c : CheckpointFields) : Prop :=
  (1 ≤ c.revision ∧ c.revision ≤ 2) ∧ (1 ≤ c.topology.length ∧ c.topology.length ≤ 16) ∧
    c.completedStepIds.length ≤ 16 ∧ c.remainingStepIds.length ≤ 16 ∧
    (1 ≤ c.sessionEpoch ∧ c.sessionEpoch ≤ 3) ∧ 0 < c.absoluteDeadlineMs ∧ c.usage.InBounds ∧
    c.receiptHashes.length ≤ 24 ∧ 1 ≤ textLength c.closedReason ∧ textLength c.closedReason ≤ 80

instance (c : CheckpointFields) : Decidable c.InBounds := by unfold InBounds; infer_instance

def entries (c : CheckpointFields) : List (String × Json) :=
  [("schema_version", .str "w8-checkpoint/1.0"), ("workflow_id", .str c.workflowId.text),
    ("run_id", .str c.runId.text), ("task_id", .str c.taskId.text),
    ("plan_hash", .digest c.planHash), ("revision", .num c.revision),
    ("topology", .arr (c.topology.map fun s => .str s.text)),
    ("completed_step_ids", .arr (c.completedStepIds.map fun s => .str s.text)),
    ("remaining_step_ids", .arr (c.remainingStepIds.map fun s => .str s.text)),
    ("session_epoch", .num c.sessionEpoch), ("absolute_deadline_ms", .num c.absoluteDeadlineMs),
    ("usage", c.usage.dump), ("receipt_hashes", .arr (c.receiptHashes.map .digest)),
    ("closed_reason", .str c.closedReason),
    ("parent_checkpoint_hash", .digest c.parentCheckpointHash)]

end CheckpointFields

structure Checkpoint where
  fields : CheckpointFields
  inBounds : fields.InBounds
  checkpointHash : Digest

def Checkpoint.dump (c : Checkpoint) : Json :=
  .obj (c.fields.entries ++ [("checkpoint_hash", .digest c.checkpointHash)])

section

variable [Sha256]

/-- `build_checkpoint`; `none` is a `ValueError`. -/
def buildCheckpoint (fields : CheckpointFields) : Option Checkpoint :=
  if h : fields.InBounds then
    let checkpoint : Checkpoint := ⟨fields, h, stableHash (.obj fields.entries)⟩
    if canonicalLength checkpoint.dump > 65536 then none else some checkpoint
  else none

/-- `validate_checkpoint` does not raise. -/
def validateCheckpoint (c : Checkpoint) : Bool :=
  let topology := c.fields.topology
  let completed := c.fields.completedStepIds
  let remaining := c.fields.remainingStepIds
  decide (stableHash (.obj c.fields.entries) = c.checkpointHash) &&
    completed.all (fun step => !remaining.contains step) &&
    (completed ++ remaining).all (fun step => topology.contains step) &&
    topology.all (fun step => completed.contains step || remaining.contains step) &&
    decide (topology.filter (completed.contains ·) = completed) &&
    decide (topology.filter (remaining.contains ·) = remaining)

end

/-! ## Activities -/

inductive ActivityOutcome where
  | started | verified | sessionLost | replanEligible | permanentFailure | idempotencyMismatch
  | cleaned
  deriving DecidableEq, Repr

inductive ReceiptState where
  | none | created | replayed | mismatch
  deriving DecidableEq, Repr

structure ReceiptRecord where
  state : ReceiptState
  resultHash : Digest
  deriving DecidableEq

/-- The fields of an `ActivityResult` that the workflow reads. -/
structure ActivityResult where
  outcome : ActivityOutcome
  planHash : Option Digest := none
  topology : List StepId := []
  sessionEpoch : Nat := 1
  receipt : Option ReceiptRecord := none
  replacedStepIds : List StepId := []
  activityAttempt : Nat := 1
  planningUsage : Option PlanningUsage := none
  topology_length : topology.length ≤ 16 := by decide
  sessionEpoch_range : 1 ≤ sessionEpoch ∧ sessionEpoch ≤ 3 := by decide
  replacedStepIds_length : replacedStepIds.length ≤ 16 := by decide
  activityAttempt_range : 1 ≤ activityAttempt ∧ activityAttempt ≤ 2 := by decide

structure ActivityRequest where
  start : WorkflowStart
  checkpoint : Option Checkpoint
  stepId : Option StepId
  sessionEpoch : Nat
  revision : Nat
  sessionEpoch_range : 1 ≤ sessionEpoch ∧ sessionEpoch ≤ 3
  revision_range : 1 ≤ revision ∧ revision ≤ 2

inductive Operation where
  | startRun | executeStep | refresh | recover | replan | cleanup
  deriving DecidableEq, Repr

/-- The name of the activity. -/
def Operation.activity : Operation → String
  | startRun => "w8_start_run" | executeStep => "w8_execute_step" | refresh => "w8_refresh"
  | recover => "w8_recover" | replan => "w8_replan" | cleanup => "w8_cleanup"

/-- How `execute_activity` ends; `cause` is what `_activity_error_type` reads. -/
inductive Reply where
  | result (r : ActivityResult)
  | activityError (cause : Option String)
  | cancelledError

/-! ## Charges -/

namespace ActivityResult

def received (r : ActivityResult) (state : ReceiptState) : Nat :=
  if r.receipt.map (·.state) = some state then 1 else 0

/-- `fault_used`. -/
def faultUsed (r : ActivityResult) : Bool :=
  decide (r.activityAttempt > 1) ||
    [.sessionLost, .replanEligible, .permanentFailure, .idempotencyMismatch].contains r.outcome

end ActivityResult

/-- `_charge`; `none` is a `ValueError`. -/
def charge (usage : DurableUsage) (result : ActivityResult) (fault : Bool) :
    Option DurableUsage :=
  let charged : DurableUsage :=
    { usage with
      activityAttempts := usage.activityAttempts + result.activityAttempt
      retries := usage.retries + (result.activityAttempt - 1)
      faults := usage.faults + fault.toNat
      receiptCreates := usage.receiptCreates + result.received .created
      receiptReplays := usage.receiptReplays + result.received .replayed
      receiptMismatches := usage.receiptMismatches + result.received .mismatch }
  match result.planningUsage with
  | none => some charged
  | some incoming =>
    if Counter.all.any fun c => decide (incoming c < usage.planningUsage c) then none
    else some { charged with planningUsage := incoming }

/-- `_charge_recoverable_activity_error`. -/
def chargeRecoverableActivityError (usage : DurableUsage) (attempts : Nat) : DurableUsage :=
  { usage with
    activityAttempts := usage.activityAttempts + attempts
    retries := usage.retries + (attempts - 1)
    faults := usage.faults + 1 }

/-! ## The run -/

inductive WorkflowTerminalStatus where
  | finishedUngraded | escalated | failed | cancelled
  deriving DecidableEq, Repr

inductive TerminalReason where
  | completed | permanentFailure | budgetExhausted | checkpointInvalid | idempotencyMismatch
  | replanDisallowed | recoveryExhausted | cancelled
  deriving DecidableEq, Repr

/-- The variables of `run` that grow with it. -/
structure Progress where
  usage : DurableUsage := {}
  completed : List StepId := []
  receipts : List Digest := []
  checkpoints : List Checkpoint := []
  planHash : Option Digest := none
  topology : List StepId := []
  revision : Nat := 1
  epoch : Nat := 1

/-- An activity that has been called, with the variables of the run at that moment. -/
structure Call where
  operation : Operation
  request : ActivityRequest
  reply : Reply
  before : Progress

/-- The variables of `run`, the activities called so far and the number of clock readings. -/
structure Locals extends Progress where
  status : WorkflowTerminalStatus := .failed
  terminalReason : TerminalReason := .permanentFailure
  calls : List Call := []
  clockReads : Nat := 0

/-- What leaves a block early; `unfinished` stands for a loop that needs more rounds. -/
inductive Exit where
  | broke
  | activityError (cause : Option String)
  | cancelledError
  | valueError
  | stopIteration
  | unfinished
  deriving DecidableEq, Repr

/-- The reply to each call in turn and the readings of `workflow.now()`. -/
structure Script where
  reply : Nat → Reply
  now : Nat → Time

abbrev Flow := EStateM Exit Locals

section

variable (script : Script) (start : WorkflowStart)

def readClock : Flow Time := do
  let l ← get
  set { l with clockReads := l.clockReads + 1 }
  pure (script.now l.clockReads)

/-- `break` with the reason that stands in front of it. -/
def breakWith {α : Type} (reason : TerminalReason) : Flow α := do
  modify fun l => { l with terminalReason := reason }
  throw .broke

def breakIf (condition : Prop) [Decidable condition] (reason : TerminalReason) : Flow PUnit :=
  if condition then breakWith reason else pure ⟨⟩

/-- A value or a `ValueError`. -/
def orValueError {α : Type} : Option α → Flow α
  | some a => pure a
  | none => throw .valueError

/-- The inner function `request`: its schema bounds the epoch and the revision. -/
def request (stepId : Option StepId) (checkpoint : Option Checkpoint) : Flow ActivityRequest := do
  let l ← get
  if h : (1 ≤ l.epoch ∧ l.epoch ≤ 3) ∧ 1 ≤ l.revision ∧ l.revision ≤ 2 then
    pure ⟨start, checkpoint, stepId, l.epoch, l.revision, h.1, h.2⟩
  else throw .valueError

/-- The inner function `invoke`. -/
def invoke (operation : Operation) (request : ActivityRequest) : Flow ActivityResult := do
  let l ← get
  let call : Call := ⟨operation, request, script.reply l.calls.length, l.toProgress⟩
  set { l with calls := l.calls ++ [call] }
  match call.reply with
  | .result r => pure r
  | .activityError cause => throw (.activityError cause)
  | .cancelledError => throw .cancelledError

/-- `usage = _charge(usage, result)`. -/
def chargeResult (result : ActivityResult) (fault : Bool) : Flow PUnit := do
  let l ← get
  let usage ← orValueError (charge l.usage result fault)
  set { l with usage := usage }

end

section

variable [Sha256] (script : Script) (start : WorkflowStart) (deadline : Time)

def genesisHash : Digest := ⟨0⟩

/-- `checkpoints[-1].checkpoint_hash`. -/
def lastHash (checkpoints : List Checkpoint) : Digest :=
  match checkpoints.getLast? with
  | some c => c.checkpointHash
  | none => genesisHash

/-- `build_checkpoint` on the variables of the run. -/
def build (planHash : Digest) (completed remaining : List StepId) (reason : String) :
    Flow Checkpoint := do
  let l ← get
  orValueError (buildCheckpoint
    { workflowId := start.workflowId
      runId := start.runId
      taskId := start.taskId
      planHash := planHash
      revision := l.revision
      topology := l.topology
      completedStepIds := completed
      remainingStepIds := remaining
      sessionEpoch := l.epoch
      absoluteDeadlineMs := deadline / 1000
      usage := l.usage
      receiptHashes := l.receipts
      closedReason := reason
      parentCheckpointHash := lastHash l.checkpoints })

/-- The checkpoint after progress: the steps of the topology with and without those completed. -/
def buildProgress (reason : String) : Flow Checkpoint := do
  let l ← get
  let planHash ← orValueError l.planHash
  build start deadline planHash (l.topology.filter (l.completed.contains ·))
    (l.topology.filter (!l.completed.contains ·)) reason

def append (checkpoint : Checkpoint) : Flow PUnit :=
  modify fun l => { l with checkpoints := l.checkpoints ++ [checkpoint] }

/-- `validate_checkpoint` in front of the append. -/
def appendValid (checkpoint : Checkpoint) : Flow PUnit :=
  if validateCheckpoint checkpoint then append checkpoint else throw .valueError

/-- `if len(checkpoints) > start.budget.max_checkpoints`. -/
def checkCheckpoints : Flow PUnit := do
  let l ← get
  breakIf (l.checkpoints.length > start.budget.maxCheckpoints) .budgetExhausted

/-- The start of a run up to its initial checkpoint. -/
def begin : Flow PUnit := do
  let request ← request start none none
  let started ← invoke script .startRun request
  chargeResult started false
  let planHash ← orValueError (started.planHash.filter fun _ =>
    started.outcome = .started ∧ started.topology ≠ [])
  modify fun l => { l with planHash := some planHash, topology := started.topology }
  let initial ← build start deadline planHash [] started.topology "planning_complete"
  append initial

/-- The call of `w8_execute_step`; `none` is a `continue`. -/
def executeStep (stepId : StepId) (latest : Option Checkpoint) : Flow (Option ActivityResult) :=
  tryCatch (do
      let request ← request start (some stepId) latest
      let result ← invoke script .executeStep request
      pure (some result))
    fun
      | .activityError cause => do
        if cause = some "ReadTimeout" then
          modify fun l => { l with
            usage := chargeRecoverableActivityError l.usage start.budget.maxActivityAttempts }
          let l ← get
          breakIf (l.usage.faults > start.budget.maxFaults) .budgetExhausted
          pure none
        else breakWith .permanentFailure
      | e => throw e

def verified (stepId : StepId) (result : ActivityResult) : Flow PUnit := do
  modify fun l => { l with
    completed := l.completed ++ [stepId]
    receipts := l.receipts ++ (result.receipt.map (·.resultHash)).toList }
  let checkpoint ← buildProgress start deadline "step_verified"
  let l ← get
  let checkpoint :=
    if start.faultScenario = .checkpointHashMismatch ∧ l.completed.length = 1 then
      { checkpoint with checkpointHash := ⟨BitVec.allOnes 256⟩ }
    else checkpoint
  breakIf (start.faultScenario = .checkpointVersionMismatch ∧ l.completed.length = 1)
    .checkpointInvalid
  breakIf (validateCheckpoint checkpoint = false) .checkpointInvalid
  append checkpoint
  checkCheckpoints start

def sessionLost (stepId : StepId) (latest : Option Checkpoint) : Flow PUnit := do
  let refresh ← request start (some stepId) latest
  let refreshed ← invoke script .refresh refresh
  chargeResult refreshed false
  let l ← get
  breakIf (l.usage.sessionRecoveries ≥ start.budget.maxSessionRecoveries) .recoveryExhausted
  modify fun l => { l with epoch := l.epoch + 1 }
  let recover ← request start (some stepId) latest
  let recovered ← invoke script .recover recover
  chargeResult recovered false
  modify fun l => { l with
    usage := { l.usage with sessionRecoveries := l.usage.sessionRecoveries + 1 } }
  let l ← get
  breakIf (recovered.outcome ≠ .started ∨ recovered.sessionEpoch ≠ l.epoch) .recoveryExhausted
  let checkpoint ← buildProgress start deadline "session_recovered"
  appendValid checkpoint
  checkCheckpoints start

def replanEligible (stepId : StepId) (latest : Option Checkpoint) : Flow PUnit := do
  let l ← get
  breakIf (start.faultScenario = .replanDisallowed ∨
    l.usage.replans ≥ start.budget.maxReplans ∨ l.revision ≥ start.budget.maxRevisions)
    .replanDisallowed
  modify fun l => { l with revision := l.revision + 1 }
  let replan ← request start (some stepId) latest
  let replanned ← invoke script .replan replan
  chargeResult replanned false
  modify fun l => { l with
    usage := { l.usage with
      replans := l.usage.replans + 1
      replacedNodes := l.usage.replacedNodes + replanned.replacedStepIds.length } }
  breakIf (replanned.planHash = none ∨ replanned.topology = []) .replanDisallowed
  modify fun l => { l with planHash := replanned.planHash, topology := replanned.topology }
  let l ← get
  breakIf (∃ step ∈ l.completed, step ∉ l.topology) .replanDisallowed
  let checkpoint ← buildProgress start deadline "partial_replan"
  appendValid checkpoint

/-- The rest of the body of the loop, once the step has been answered. -/
def afterStep (stepId : StepId) (latest : Option Checkpoint) (result : ActivityResult) :
    Flow PUnit := do
  chargeResult result result.faultUsed
  let l ← get
  breakIf (l.usage.faults > start.budget.maxFaults) .budgetExhausted
  match result.outcome with
  | .verified => verified start deadline stepId result
  | .sessionLost => sessionLost script start deadline stepId latest
  | .replanEligible => replanEligible script start deadline stepId latest
  | .idempotencyMismatch => breakWith .idempotencyMismatch
  | .started | .permanentFailure | .cleaned => breakWith .permanentFailure

/-- The body of the loop. -/
def turn : Flow PUnit := do
  let now ← readClock script
  breakIf (now > deadline) .budgetExhausted
  let l ← get
  let latest := l.checkpoints.getLast?
  -- `next(step for step in topology if step not in completed)`
  match l.topology.find? (!l.completed.contains ·) with
  | none => throw .stopIteration
  | some stepId =>
    let answer ← executeStep script start stepId latest
    match answer with
    | none => pure ⟨⟩
    | some result => afterStep script start deadline stepId latest result

/-- `while len(completed) < len(topology)` with its `else`. -/
def rounds : Nat → Flow PUnit
  | 0 => throw .unfinished
  | n + 1 => do
    let l ← get
    if l.completed.length < l.topology.length then
      turn script start deadline
      rounds n
    else
      modify fun l => { l with status := .finishedUngraded, terminalReason := .completed }

/-- More rounds than any run has. -/
def maxRounds : Nat := 20

/-- The `try` block with its clauses. -/
def guarded : Flow PUnit :=
  tryCatch (do
      begin script start deadline
      rounds script start deadline maxRounds)
    fun
      | .broke => pure ⟨⟩
      | .cancelledError =>
        modify fun l => { l with status := .cancelled, terminalReason := .cancelled }
      | .activityError _ | .valueError =>
        modify fun l => { l with status := .failed, terminalReason := .permanentFailure }
      | e => throw e

/-- The `finally` block. -/
def cleanup : Flow PUnit :=
  tryCatch (do
      let l ← get
      let request ← request start none l.checkpoints.getLast?
      let cleaned ← invoke script .cleanup request
      chargeResult cleaned false)
    fun
      | .activityError _ | .cancelledError =>
        modify fun l =>
          if l.status = .finishedUngraded then
            { l with status := .failed, terminalReason := .permanentFailure }
          else l
      | e => throw e

/-- `try` and `finally`: an exception that no clause caught goes on after the cleanup. -/
def protectedRun : Flow PUnit := fun l =>
  match guarded script start deadline l with
  | .ok _ l => cleanup script start l
  | .error e l =>
    match cleanup script start l with
    | .ok _ l => .error e l
    | .error e l => .error e l

end

/-! ## The result -/

structure WorkflowResult where
  workflowId : OpaqueId
  runId : OpaqueId
  taskId : TaskId
  status : WorkflowTerminalStatus
  terminalReason : TerminalReason
  planHash : Option Digest
  revision : Nat
  sessionEpoch : Nat
  completedStepIds : List StepId
  checkpointCount : Nat
  latestCheckpointHash : Option Digest
  usage : DurableUsage

namespace WorkflowResult

/-- What the constructor checks: a usage is an instance already. -/
def Constructed (r : WorkflowResult) : Prop :=
  (1 ≤ r.revision ∧ r.revision ≤ 2) ∧ (1 ≤ r.sessionEpoch ∧ r.sessionEpoch ≤ 3) ∧
    r.completedStepIds.length ≤ 16 ∧ r.checkpointCount ≤ 18

instance (r : WorkflowResult) : Decidable r.Constructed := by unfold Constructed; infer_instance

/-- The schema accepts what the result dumps to. -/
def Accepted (r : WorkflowResult) : Prop := r.Constructed ∧ r.usage.InBounds

end WorkflowResult

section

variable [Sha256] (script : Script) (start : WorkflowStart)

def result (l : Locals) : WorkflowResult where
  workflowId := start.workflowId
  runId := start.runId
  taskId := start.taskId
  status := l.status
  terminalReason := l.terminalReason
  planHash := l.planHash
  revision := l.revision
  sessionEpoch := l.epoch
  completedStepIds := l.topology.filter (l.completed.contains ·)
  checkpointCount := l.checkpoints.length
  latestCheckpointHash := l.checkpoints.getLast?.map (·.checkpointHash)
  usage := l.usage

/-- `run` on a validated start. -/
def run : Flow WorkflowResult := do
  let now ← readClock script
  protectedRun script start (now + start.budget.maxDurationSeconds * second)
  let l ← get
  let final := result start l
  if final.Constructed then pure final else throw .valueError

/-- How a run ends, and the variables that it leaves. -/
def outcome : EStateM.Result Exit Locals WorkflowResult := run script start {}

end

end FlowPilot.Recovery.Workflow
