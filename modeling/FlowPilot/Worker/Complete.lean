import FlowPilot.Control.Approval
import FlowPilot.Worker.Repository

/-!
# Completion of a run

`complete` of the workflow worker's repository, with the outcome it records and the trace
summary it appends for it.
-/

open FlowPilot.Lib

namespace FlowPilot.Worker

inductive WorkflowStatus where
  | finishedUngraded | escalated | failed | cancelled
  deriving DecidableEq, Repr

def WorkflowStatus.value : WorkflowStatus → String
  | finishedUngraded => "finished_ungraded" | escalated => "escalated" | failed => "failed"
  | cancelled => "cancelled"

structure WorkflowResult where
  workflowId : String
  runId : RunId
  taskId : TaskId
  status : WorkflowStatus
  terminalReason : String
  planHash : Option Digest
  revision : Nat
  sessionEpoch : Nat
  completedStepIds : List String
  checkpointCount : Nat
  latestCheckpointHash : Option Digest
  usage : List (String × Json)

structure TemporalOutcome where
  result : WorkflowResult
  deduplicatedStart : Bool

def WorkflowResult.json (result : WorkflowResult) : Json :=
  .obj [("schema_version", .str "w8-workflow-result/1.0"),
    ("workflow_id", .str result.workflowId),
    ("run_id", .id result.runId),
    ("task_id", .str result.taskId.value),
    ("status", .str result.status.value),
    ("terminal_reason", .str result.terminalReason),
    ("plan_hash", .ofOption .digest result.planHash),
    ("revision", .num result.revision),
    ("session_epoch", .num result.sessionEpoch),
    ("completed_step_ids", .arr (result.completedStepIds.map .str)),
    ("checkpoint_count", .num result.checkpointCount),
    ("latest_checkpoint_hash", .ofOption .digest result.latestCheckpointHash),
    ("usage", .obj result.usage)]

/-! ## Usage -/

def lookupField (values : List (String × Json)) (key : String) : Option Json :=
  (values.find? fun f => f.1 = key).map (·.2)

/-- `_metric`: a missing, negative or non-integer entry counts as zero. -/
def metric (values : List (String × Json)) (key : String) : Nat :=
  match lookupField values key with
  | some (.num n) => n.toNat
  | _ => 0

/-- `_planning_usage`. -/
def planningUsage (result : WorkflowResult) : List (String × Json) :=
  match lookupField result.usage "planning_usage" with
  | some (.obj fields) => fields
  | _ => []

/-- `_outcome_failure_category`. -/
def outcomeFailureCategory (result : WorkflowResult) : FailureCategory :=
  if result.status = .finishedUngraded then .none
  else if result.terminalReason = "idempotency_mismatch" then .receiptInvalid
  else if result.terminalReason = "checkpoint_invalid" then .recoveryFailure
  else if result.terminalReason = "replan_disallowed" then .planningFailure
  else if result.terminalReason = "recovery_exhausted" then .recoveryFailure
  else if result.terminalReason = "permanent_failure" then .browserError
  else if result.terminalReason = "budget_exhausted" then .recoveryFailure
  else if result.terminalReason = "cancelled" then .none
  else if result.terminalReason = "completed" then .none
  else .recoveryFailure

variable [Sha256]

/-! ## Outcome trace -/

/-- What every outcome event says. -/
def outcomeCommon (item : WorkItem) (terminalStatus : RunStatus) (terminalVersion : Nat) :
    List (String × Json) :=
  [("run_status", .str terminalStatus.value),
    ("workflow_hash", .digest item.workflowHash),
    ("worker_reference", .digest item.workerOwnerHash),
    ("fencing_token", .num item.fencingToken),
    ("attempt_count", .num item.attemptCount),
    ("version", .num terminalVersion),
    ("sensitive_fields_present", .bool false)]

/-- One `browser_step` event for each completed step, numbered from one. -/
def stepEntries (common : List (String × Json)) : Nat → List String → List TraceEntry
  | _, [] => []
  | index, stepId :: rest =>
    { phase := .browser
      status := .succeeded
      reason := .browserStep
      attributes := common ++ [("step_id", .str stepId), ("count", .num index)] } ::
      stepEntries common (index + 1) rest

/-- The events of `_append_outcome_trace`, in order. -/
def outcomeEntries (item : WorkItem) (outcome : TemporalOutcome) (terminalStatus : RunStatus)
    (receiptReference : String) (auditSequence terminalVersion : Nat) : List TraceEntry :=
  let result := outcome.result
  let usage := result.usage
  let planning := planningUsage result
  let finished := decide (terminalStatus = .finishedUngraded)
  let traceStatus : TraceStatus := if finished then .succeeded else .failed
  let failureCategory := outcomeFailureCategory result
  let common := outcomeCommon item terminalStatus terminalVersion
  let fakeCost := metric planning "cost_microusd" + metric planning "planning_cost_microusd" +
    metric planning "verifier_cost_microusd"
  let modelCalls := metric planning "model_calls"
  let inputTokens := metric planning "input_tokens"
  let outputTokens := metric planning "output_tokens"
  let steps := result.completedStepIds
  let checkpointHash : Json := .ofOption .digest result.latestCheckpointHash
  let browserFailure : FailureCategory :=
    if failureCategory = .browserTimeout ∨ failureCategory = .browserError then failureCategory
    else .none
  [{ phase := .recovery
     status := traceStatus
     reason := .recoverySummary
     failureCategory := failureCategory
     attributes := common ++
       [("activity_attempts", .num (metric usage "activity_attempts")),
         ("retries", .num (metric usage "retries")),
         ("session_recoveries", .num (metric usage "session_recoveries")),
         ("replans", .num (metric usage "replans")),
         ("checkpoint_count", .num result.checkpointCount),
         ("checkpoint_hash", checkpointHash),
         ("completed_step_ids", .arr (steps.map .str)),
         ("step_count", .num steps.length)] },
    { phase := .planning
      status := traceStatus
      reason := .planningSummary
      failureCategory := if failureCategory = .planningFailure then failureCategory else .none
      attributes := common ++
        [("model_calls", .num modelCalls),
          ("input_tokens", .num inputTokens),
          ("output_tokens", .num outputTokens),
          ("route_decisions", .num (metric planning "route_decisions")),
          ("duration_ms", .num (metric planning "elapsed_ms")),
          ("fake_cost_microusd", .num fakeCost),
          ("real_cost_microusd", .num 0)] }] ++
  stepEntries common 1 steps ++
  [{ phase := .browser
     status := traceStatus
     reason := .browserSummary
     failureCategory := browserFailure
     attributes := common ++
       [("step_count", .num steps.length),
         ("dom_observations", .num (metric planning "dom_observations")),
         ("images", .num (metric planning "images")),
         ("latency_ms", .num (metric planning "capture_ms"))] },
    { phase := .receipt
      status := traceStatus
      reason := .receiptRecorded
      failureCategory := if failureCategory = .receiptInvalid then failureCategory else .none
      attributes := common ++
        [("receipt_reference", .str receiptReference), ("checkpoint_hash", checkpointHash)] },
    { phase := .cost
      status := .succeeded
      reason := .fakeCostAccounted
      attributes := common ++
        [("model_calls", .num modelCalls),
          ("input_tokens", .num inputTokens),
          ("output_tokens", .num outputTokens),
          ("fake_cost_microusd", .num fakeCost),
          ("real_cost_microusd", .num 0)] },
    { phase := .grader
      status := if finished then .pending else .failed
      reason := .graderPending
      failureCategory := if finished then .none else failureCategory
      attributes := common ++ [("receipt_reference", .str receiptReference)] },
    { phase := .audit
      status := .succeeded
      reason := .auditReference
      attributes := common ++ [("audit_sequence", .num auditSequence)] },
    { phase := .terminal
      status := traceStatus
      reason := if finished then .runFinishedUngraded else .runFailed
      failureCategory := failureCategory
      attributes := common ++
        [("receipt_reference", .str receiptReference),
          ("checkpoint_hash", checkpointHash),
          ("audit_sequence", .num auditSequence)] }]

def appendTraceEvents (db : Db) (organizationId : OrganizationId) (runId : RunId)
    (now : Time) : List TraceEntry → Except Failure Db
  | [] => .ok db
  | entry :: rest => do
    let db ← appendTraceEvent db organizationId runId entry now
    appendTraceEvents db organizationId runId now rest

/-- `_append_outcome_trace`. -/
def appendOutcomeTrace (db : Db) (item : WorkItem) (outcome : TemporalOutcome)
    (terminalStatus : RunStatus) (receiptReference : String)
    (auditSequence terminalVersion : Nat) (now : Time) : Except Failure Db :=
  appendTraceEvents db item.organizationId item.runId now
    (outcomeEntries item outcome terminalStatus receiptReference auditSequence terminalVersion)

/-! ## complete -/

/-- The last part of `complete`: the grant and the request are consumed, or fail, together. -/
def completeApproval (db : Db) (item : WorkItem) (successful : Bool) (receiptReference : String)
    (now : Time) : Except Failure Db :=
  match item.grantId, item.approvalRequestId with
  | some grantId, some requestId => do
    let sameGrant : ApprovalGrant → Bool := fun g =>
      g.organizationId = item.organizationId ∧ g.grantId = grantId ∧
        g.executionId = item.executionId ∧ g.status = .claimed
    let sameRequest : ApprovalRequest → Bool := fun r =>
      r.organizationId = item.organizationId ∧ r.requestId = requestId ∧ r.status = .claimed
    let grantStatus : GrantStatus := if successful then .consumed else .failed
    if db.grants.count sameGrant ≠ 1 ∨ db.requests.count sameRequest ≠ 1 then
      .error (.runtimeError "approval completion binding changed")
    else
      let db :=
        { db with
          grants := db.grants.update sameGrant fun g =>
            { g with
              status := grantStatus
              version := g.version + 1
              receiptReference := some receiptReference
              consumedAt := if successful then some now else none
              updatedAt := now }
          requests := db.requests.update sameRequest fun r =>
            { r with
              status := if successful then .consumed else .failed
              version := r.version + 1
              updatedAt := now } }
      let (_, db) ← appendAudit db item.organizationId
        (if successful then .grantConsumed else .executionFailed) item.workerOwnerHash
        grantId.text
        [("schema_version", .str "w11-audit-payload/1.0"),
          ("request_id", .id requestId),
          ("grant_id", .id grantId),
          ("grant_status", .str grantStatus.value),
          ("execution_id", .ofOption .id item.executionId),
          ("receipt_reference", .str receiptReference)] now
      .ok db
  | _, _ => do
    let (_, db) ← appendAudit db item.organizationId
      (if successful then .executionSucceeded else .executionFailed) item.workerOwnerHash
      item.runId.text
      [("schema_version", .str "w11-audit-payload/1.0"),
        ("action_type", .str item.actionType),
        ("parameter_hash", .digest item.parameterHash),
        ("receipt_reference", .str receiptReference)] now
    .ok db

/-- The transition to `verifying` that precedes a successful end. -/
def startVerifying (db : Db) (item : WorkItem) (run : ProductionRun) (successful : Bool)
    (receiptReference : String) (now : Time) : Except Failure Db :=
  if successful then do
    let db :=
      { db with
        runs := db.runs.update
          (fun r => r.organizationId = item.organizationId ∧ r.runId = item.runId ∧
            r.fencingToken = item.fencingToken)
          fun r => { r with status := .verifying, version := r.version + 1, updatedAt := now } }
    let (_, db) ← appendAudit db item.organizationId .runVerifying item.workerOwnerHash
      item.runId.text
      [("schema_version", .str "w12-audit-payload/1.0"),
        ("run_id", .id item.runId),
        ("run_status", .str "verifying"),
        ("receipt_reference", .str receiptReference),
        ("fencing_token", .num item.fencingToken),
        ("version", .num (run.version + 1))] now
    .ok db
  else .ok db

omit [Sha256] in
/-- Taking a run off its partition keeps the partition's key. -/
theorem dequeued_key (now : Time) (p : SchedulerPartition) :
    ({ p with
      readyCount := p.readyCount - 1
      cursorVersion := p.cursorVersion + 1
      updatedAt := now } : SchedulerPartition).organizationId = p.organizationId := rfl

/-- The part of `complete` after the checks. -/
def completeLocked (db : Db) (item : WorkItem) (run : ProductionRun) (outbox : DispatchOutbox)
    (outcome : TemporalOutcome) (now : Time) : Except Failure (Bool × Db) := do
  let receiptReference :=
    (outcome.result.latestCheckpointHash.getD (stableHash outcome.result.json)).hex
  let successful := decide (outcome.result.status = .finishedUngraded)
  let db ← startVerifying db item run successful receiptReference now
  let terminalStatus : RunStatus := if successful then .finishedUngraded else .failed
  let terminalReason : TerminalReason := if successful then .agentFinished else .agentFailed
  let db ← leaseHistory db outbox (if successful then .completed else .failed) now
  let db ← db.updateOutbox
    (fun o => o.organizationId = item.organizationId ∧ o.outboxId = item.outboxId ∧
      o.fencingToken = item.fencingToken)
    fun o => { o with status := if successful then .closed else .failed, updatedAt := now }
  let terminalVersion := run.version + if successful then 2 else 1
  let sameRun : ProductionRun → Bool := fun r =>
    r.organizationId = item.organizationId ∧ r.runId = item.runId ∧
      r.fencingToken = item.fencingToken
  let db :=
    { db with
      runs := db.runs.update sameRun fun r =>
        { r with
          status := terminalStatus
          version := terminalVersion
          finishedAt := some now
          terminalReason := some terminalReason
          receiptReference := some receiptReference
          updatedAt := now } }
  let db ← db.updatePartition item.organizationId (fun p =>
    { p with
      readyCount := p.readyCount - 1
      cursorVersion := p.cursorVersion + 1
      updatedAt := now }) (dequeued_key now)
  let (sequence, db) ← appendAudit db item.organizationId
    (if successful then .runFinishedUngraded else .runFailed) item.workerOwnerHash
    item.runId.text
    [("schema_version", .str "w12-audit-payload/1.0"),
      ("run_id", .id item.runId),
      ("run_status", .str terminalStatus.value),
      ("reason", .str terminalReason.value),
      ("receipt_reference", .str receiptReference),
      ("fencing_token", .num item.fencingToken),
      ("version", .num terminalVersion)] now
  let db := setAuditSequence db sameRun sequence
  let db ← appendOutcomeTrace db item outcome terminalStatus receiptReference sequence
    terminalVersion now
  let db ← completeApproval db item successful receiptReference now
  .ok (true, db)

/-- `complete`. -/
def complete (w : Repository) (item : WorkItem) (outcome : TemporalOutcome) (now : Time)
    (db : Db) : Except Failure (Bool × Db) :=
  let outbox := db.outbox.one? fun o =>
    o.organizationId = item.organizationId ∧ o.outboxId = item.outboxId ∧
      o.status = .dispatched ∧ o.leaseOwnerHash = some item.workerOwnerHash ∧
      o.fencingToken = item.fencingToken ∧ o.leaseVersion = item.leaseVersion
  let run := db.runs.one? fun r =>
    r.organizationId = item.organizationId ∧ r.runId = item.runId ∧ r.status = .running ∧
      r.leaseOwnerHash = some item.workerOwnerHash ∧ r.fencingToken = item.fencingToken
  match outbox, run with
  | some outbox, some run =>
    if ¬ bindingValid db item now false then
      failLocked w db run outbox .authorizationInvalid now
    else completeLocked db item run outbox outcome now
  | _, _ => do
    let db ← recordStaleFence db item now
    .ok (false, db)

end FlowPilot.Worker
