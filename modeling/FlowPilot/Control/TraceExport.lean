import FlowPilot.Control.Logs
import Mathlib.Data.List.Sort

/-!
# The trace export of a run

`list_observability_events` and `build_run_trace_export` of the Control API's `observability.py`.
-/

open FlowPilot.Lib

namespace FlowPilot.Control

/-- The exceptions of an export. -/
inductive ExportFailure where
  | validationError
  | keyError
  | observabilityPayloadRejected (detail : String)
  deriving DecidableEq, Repr

/-! ## Events -/

/-- An `ObservabilityEventRead`: a stored event with its attributes as `TraceAttributes`. -/
structure EventRead extends ObservabilityEvent where
  attributes : List (String × Json)

/-- `^[0-9a-f]{n}$`. -/
def matchesHex (n : Nat) (s : String) : Bool :=
  let text := utf8 s
  text.all (fun b => isDigit b || Nat.ble 97 b && Nat.ble b 102) && Nat.beq text.length n

/-- `event_read`. -/
def eventRead (event : ObservabilityEvent) : Except ExportFailure EventRead :=
  match event.attributesJson with
  | .obj attributes =>
    if attributes.all validTraceField ∧ 1 ≤ event.eventSequence ∧ event.eventSequence ≤ 256 ∧
        matchesHex 32 event.traceId ∧ matchesHex 16 event.spanId ∧
        event.parentSpanId.all (matchesHex 16) then
      .ok { event with attributes := validatedFields attributes }
    else .error .validationError
  | _ => .error .validationError

/-- The events are numbered from `n`. -/
def contiguous (n : Nat) : List EventRead → Bool
  | [] => true
  | event :: rest => decide (event.eventSequence = n) && contiguous (n + 1) rest

def readEvents : List ObservabilityEvent → Except ExportFailure (List EventRead)
  | [] => .ok []
  | event :: rest => do
    let event ← eventRead event
    let rest ← readEvents rest
    .ok (event :: rest)

/-- The rows of the query of `list_observability_events`. -/
def eventRows (db : Db) (organizationId : OrganizationId) (runId : RunId) :
    List ObservabilityEvent :=
  ((runTraces db organizationId runId).insertionSort
    fun a b => a.eventSequence ≤ b.eventSequence).take 256

/-- `list_observability_events`. -/
def listObservabilityEvents (db : Db) (organizationId : OrganizationId) (runId : RunId) :
    Except ExportFailure (List EventRead) := do
  let events ← readEvents (eventRows db organizationId runId)
  if contiguous 1 events then .ok events
  else .error (.observabilityPayloadRejected "trace event sequence is not contiguous")

/-! ## The export -/

structure ReplayStep where
  ordinal : Nat
  phase : TracePhase
  status : TraceStatus
  failureCategory : FailureCategory
  reason : TraceReason
  referenceHash : Digest
  observedAt : Time

def replayStep (ordinal : Nat) (event : EventRead) : ReplayStep :=
  ⟨ordinal, event.phase, event.status, event.failureCategory, event.reason, event.eventHash,
    event.observedAt⟩

/-- `attributes.<name> or 0`. -/
def amount (attributes : List (String × Json)) (name : String) : Int :=
  match attributes.find? fun f => f.1 = name with
  | some (_, .num n) => n
  | _ => 0

/-- `sum(event.attributes.<name> or 0 for event in events)`. -/
def total (events : List EventRead) (name : String) : Int :=
  (events.map fun event => amount event.attributes name).sum

def sensitive (attributes : List (String × Json)) : Bool :=
  match attributes.find? fun f => f.1 = "sensitive_fields_present" with
  | some (_, .bool b) => b
  | _ => false

structure CostSummary where
  modelCalls : Int
  inputTokens : Int
  outputTokens : Int
  fakeCostMicrousd : Int

/-- The bounds of `CostSummary`. -/
def CostSummary.valid (cost : CostSummary) : Prop :=
  (0 ≤ cost.modelCalls ∧ cost.modelCalls ≤ 1000000) ∧
  (0 ≤ cost.inputTokens ∧ cost.inputTokens ≤ 1000000000) ∧
  (0 ≤ cost.outputTokens ∧ cost.outputTokens ≤ 1000000000) ∧
  (0 ≤ cost.fakeCostMicrousd ∧ cost.fakeCostMicrousd ≤ 1000000000)

instance (cost : CostSummary) : Decidable cost.valid := by
  unfold CostSummary.valid
  infer_instance

/-- `_event_failure`. -/
def eventFailure (events : List EventRead) : FailureCategory :=
  match events.find? fun e => e.failureCategory ≠ .none with
  | none => .none
  | some event => event.failureCategory

/-- `_terminal_failure`; an agent that finished is not a key of its table. -/
def terminalFailure (run : ProductionRun) : Option FailureCategory :=
  if run.status = .finishedUngraded then some .none
  else
    match run.terminalReason with
    | none => some .none
    | some .authorizationInvalid => some .authz
    | some .queueExpired => some .queueExpiry
    | some .leaseExhausted => some .leaseFence
    | some .workflowRejected => some .workflowRejected
    | some .receiptInvalid => some .receiptInvalid
    | some .workerDrained => some .leaseFence
    | some .dependencyUnavailable => some .dependencyUnavailable
    | some .agentFailed => some .recoveryFailure
    | some .cancelledByActor => some .none
    | some .agentFinished => none

structure TraceDashboard where
  eventCount : Nat
  replayStepCount : Nat
  terminalStatus : RunStatus
  failureCategory : FailureCategory
  modelCalls : Int
  fakeCostMicrousd : Int
  dashboardHash : Digest

structure RunTraceExport where
  run : ProductionRun
  traceId : String
  events : List EventRead
  replaySteps : List ReplayStep
  cost : CostSummary
  dashboard : TraceDashboard

variable [Sha256]

/-- `dashboard_fields`. -/
def dashboardFields (events replaySteps : Nat) (status : RunStatus)
    (failureCategory : FailureCategory) (cost : CostSummary) : Json :=
  .obj [("schema_version", .str "w13-trace-dashboard/1.0"),
    ("event_count", .num events),
    ("replay_step_count", .num replaySteps),
    ("terminal_status", .str status.value),
    ("failure_category", .str failureCategory.value),
    ("model_calls", .num cost.modelCalls),
    ("fake_cost_microusd", .num cost.fakeCostMicrousd),
    ("real_cost_microusd", .num 0),
    ("sensitive_fields_present", .bool false)]

/-- `build_run_trace_export`. -/
def buildRunTraceExport (db : Db) (run : ProductionRun) :
    Except ExportFailure RunTraceExport := do
  let events ← listObservabilityEvents db run.organizationId run.runId
  let replaySteps := (events.zipIdx 1).map fun e => replayStep e.2 e.1
  let cost : CostSummary :=
    { modelCalls := total events "model_calls"
      inputTokens := total events "input_tokens"
      outputTokens := total events "output_tokens"
      fakeCostMicrousd := total events "fake_cost_microusd" }
  if total events "real_cost_microusd" ≠ 0 ∨ events.any (fun e => sensitive e.attributes) then
    .error (.observabilityPayloadRejected "trace export safety invariant failed")
  else if ¬ cost.valid then .error .validationError
  else
    let reported := eventFailure events
    match if reported = .none then terminalFailure run else some reported with
    | none => .error .keyError
    | some failureCategory =>
      .ok { run := run
            traceId := match events with
              | [] => traceIdForRun run.organizationId run.runId
              | event :: _ => event.traceId
            events := events
            replaySteps := replaySteps
            cost := cost
            dashboard :=
              { eventCount := events.length
                replayStepCount := replaySteps.length
                terminalStatus := run.status
                failureCategory := failureCategory
                modelCalls := cost.modelCalls
                fakeCostMicrousd := cost.fakeCostMicrousd
                dashboardHash := stableHash (dashboardFields events.length replaySteps.length
                  run.status failureCategory cost) } }

end FlowPilot.Control
