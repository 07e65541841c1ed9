import FlowPilot.Control.TraceResponse
import FlowPilot.Web.Checks

/-!
# The trace view of the web client

`parseProductionRun` and `parseRunTrace` of the client's `runs.ts` on a response body.  The tests
of one condition are a table of the fields with what each must pass, in the order of the source.
-/

open FlowPilot.Control (matchesId matchesSha256 matchesStep matchesAction matchesReceipt matchesHex)

namespace FlowPilot.Web

/-! ## Sets -/

/-- `TASK_IDS`. -/
def taskIds : List String :=
  ["w7-jml-joiner-001-v1", "w7-jml-joiner-001-v2", "w7-jml-joiner-002-v1", "w7-jml-joiner-002-v2",
    "w7-jml-mover-001-v1", "w7-jml-mover-001-v2", "w7-jml-leaver-001-v1", "w7-jml-leaver-001-v2"]

/-- `RUN_STATUSES`. -/
def runStatuses : List String :=
  ["waiting_approval", "queued", "leased", "running", "recovering", "verifying",
    "finished_ungraded", "failed", "cancelled", "expired"]

/-- `TERMINAL_REASONS`. -/
def terminalReasons : List String :=
  ["agent_finished", "agent_failed", "authorization_invalid", "queue_expired", "lease_exhausted",
    "cancelled_by_actor", "workflow_rejected", "receipt_invalid", "worker_drained",
    "dependency_unavailable"]

/-- `TRACE_PHASE_SET`. -/
def tracePhases : List String :=
  ["admission", "approval", "outbox", "lease", "dispatch", "workflow", "recovery", "planning",
    "browser", "receipt", "grader", "audit", "cost", "terminal", "replay", "dashboard"]

/-- `TRACE_STATUS_SET`. -/
def traceStatuses : List String :=
  ["accepted", "waiting", "queued", "leased", "running", "recovered", "released", "succeeded",
    "failed", "cancelled", "rejected", "pending", "exported"]

/-- `FAILURE_CATEGORY_SET`. -/
def failureCategories : List String :=
  ["none", "authn", "authz", "approval", "schema", "rate_limit", "backpressure", "queue_expiry",
    "lease_fence", "workflow_rejected", "dependency_unavailable", "browser_timeout",
    "browser_error", "planning_failure", "recovery_failure", "receipt_invalid",
    "grader_verification", "audit_verification"]

/-- `TRACE_REASON_SET`. -/
def traceReasons : List String :=
  ["admitted_queued", "admitted_waiting_approval", "approval_handoff", "outbox_ready",
    "lease_claimed", "lease_recovered", "lease_heartbeat", "lease_released",
    "stale_fence_rejected", "worker_dispatched", "temporal_reference", "temporal_deduplicated",
    "recovery_summary", "planning_summary", "browser_step", "browser_summary", "receipt_recorded",
    "grader_pending", "audit_reference", "fake_cost_accounted", "run_finished_ungraded",
    "run_failed", "run_cancelled", "run_expired", "replay_exported", "dashboard_exported"]

/-- `processCategories`. -/
def processCategories : List (String × String) :=
  [("joiner", "standard_joiner"), ("mover", "standard_mover"), ("leaver", "standard_leaver")]

/-- `isTerminalRun` of the text of a status. -/
def isTerminalStatus (status : String) : Bool :=
  status = "finished_ungraded" ∨ status = "failed" ∨ status = "cancelled" ∨ status = "expired"

/-! ## Tests of a field -/

/-- `typeof value === "string"` with a test of the text. -/
def stringCheck (ok : String → Bool) : Json → Bool
  | .str s => ok s
  | _ => false

/-- `value === text`. -/
def textCheck (text : String) : Json → Bool
  | .str s => s = text
  | _ => false

/-- `value === n`. -/
def numberCheck (n : Int) : Json → Bool
  | .num m => m = n
  | _ => false

/-- `value === false`. -/
def falseCheck : Json → Bool
  | .bool b => !b
  | _ => false

/-- `value === null` or the test. -/
def nullable (check : Json → Bool) : Json → Bool
  | .null => true
  | value => check value

/-- `Number.isSafeInteger`. -/
def isSafeInteger (n : Int) : Bool := -maxSafeInteger ≤ n ∧ n ≤ maxSafeInteger

/-- `validInteger`. -/
def validInteger (minimum maximum : Int) : Json → Bool
  | .num n => isSafeInteger n && decide (minimum ≤ n) && decide (n ≤ maximum)
  | _ => false

/-- Every test of the table passes; a field that is missing is `undefined` and passes none. -/
def passes (item : Item) (checks : List (String × (Json → Bool))) : Bool :=
  checks.all fun c => (field item c.1).any c.2

/-- `item.<name> as string`. -/
def stringOf (item : Item) (name : String) : String :=
  match field item name with
  | some (.str s) => s
  | _ => ""

/-- `item.<name> as string | null`. -/
def nullableOf (item : Item) (name : String) : Option String :=
  match field item name with
  | some (.str s) => some s
  | _ => none

/-- `item.<name> as number`. -/
def numberOf (item : Item) (name : String) : Int :=
  match field item name with
  | some (.num n) => n
  | _ => 0

/-- `record` with the message of the error that it throws. -/
def recordOr (message : String) (value : Json) : Except String Item :=
  match record value with
  | some item => .ok item
  | none => .error message

def throwUnless (ok : Bool) (message : String) : Except String Unit :=
  if ok then .ok () else .error message

/-! ## Dates -/

/-- The days from 1970-01-01 to a date of the proleptic Gregorian calendar. -/
def daysOfDate (year month day : Nat) : Int :=
  let y : Int := if month ≤ 2 then year - 1 else year
  let m : Int := if month ≤ 2 then month + 9 else month - 3
  let era := y / 400
  let yoe := y % 400
  let doy := (153 * m + 2) / 5 + day - 1
  era * 146097 + (yoe * 365 + yoe / 4 - yoe / 100 + doy) - 719468

/-- `Date.parse` of a text of the form `UTC_TIMESTAMP`: the milliseconds since the epoch, or `NaN`
when an element is outside its range.  Digits after the third of a fraction are dropped. -/
def dateParse (s : String) : Option Int :=
  let text := utf8 s
  let year := digitsValue (text.take 4)
  let month := digitsValue ((text.drop 5).take 2)
  let day := digitsValue ((text.drop 8).take 2)
  let hour := digitsValue ((text.drop 11).take 2)
  let minute := digitsValue ((text.drop 14).take 2)
  let second := digitsValue ((text.drop 17).take 2)
  let fraction := match text.drop 19 with
    | 46 :: rest => (spanDigits rest).1
    | _ => []
  let milliseconds := digitsValue ((fraction ++ [48, 48, 48]).take 3)
  if (1 ≤ month ∧ month ≤ 12) ∧ (1 ≤ day ∧ day ≤ 31) ∧
      (hour ≤ 23 ∧ minute ≤ 59 ∧ second ≤ 59 ∨
        hour = 24 ∧ minute = 0 ∧ second = 0 ∧ milliseconds = 0) then
    some ((((daysOfDate year month day * 24 + hour) * 60 + minute) * 60 + second) * 1000 +
      milliseconds)
  else none

example : dateParse "2026-08-01T00:00:00.250000Z" = some 1785542400250 := by decide

/-- `validTimestamp`. -/
def validTimestamp : Json → Bool := stringCheck fun s => utcTimestamp s && (dateParse s).isSome

/-- `Date.parse(value) > Date.parse(latest)`. -/
def laterThan (value latest : String) : Bool :=
  match dateParse value, dateParse latest with
  | some a, some b => b < a
  | _, _ => false

/-- `latestTimestamp`, of values of which one is present. -/
def latestTimestamp (values : List (Option String)) : String :=
  match values.filterMap id with
  | [] => ""
  | first :: rest =>
    rest.foldl (fun latest value => if laterThan value latest then value else latest) first

/-! ## The run -/

/-- A `ProductionRun` of the client. -/
structure ViewedRun where
  runId : String
  organizationId : String
  taskId : String
  process : String
  category : String
  approvalRequestId : Option String
  actionType : String
  status : String
  version : Int
  acceptedAt : String
  queuedAt : Option String
  startedAt : Option String
  finishedAt : Option String
  updatedAt : String
  terminalReason : Option String
  receiptReference : Option String
  auditSequence : Int

def runKeys : List String :=
  ["schema_version", "run_id", "organization_id", "requester_user_id", "executor_user_id",
    "task_id", "process", "category", "approval_request_id", "grant_id", "execution_id",
    "action_type", "parameter_hash", "authorization_hash", "approval_set_hash", "payload_hash",
    "status", "version", "workflow_hash", "fencing_token", "accepted_at", "queued_at",
    "started_at", "finished_at", "terminal_reason", "receipt_reference", "audit_sequence"]

def runChecks : List (String × (Json → Bool)) :=
  [("schema_version", textCheck "w12-production-run/1.0"),
    ("run_id", stringCheck (matchesId .run)),
    ("organization_id", stringCheck (matchesId .org)),
    ("requester_user_id", stringCheck (matchesId .usr)),
    ("executor_user_id", stringCheck (matchesId .usr)),
    ("task_id", stringCheck taskIds.contains),
    ("process", stringCheck (processCategories.map (·.1)).contains),
    ("approval_request_id", nullable (stringCheck (matchesId .apr))),
    ("grant_id", nullable (stringCheck (matchesId .grt))),
    ("execution_id", nullable (stringCheck (matchesId .exe))),
    ("action_type", stringCheck matchesAction),
    ("parameter_hash", stringCheck matchesSha256),
    ("authorization_hash", stringCheck matchesSha256),
    ("approval_set_hash", nullable (stringCheck matchesSha256)),
    ("payload_hash", stringCheck matchesSha256),
    ("status", stringCheck runStatuses.contains),
    ("version", validInteger 1 maxSafeInteger),
    ("workflow_hash", stringCheck matchesSha256),
    ("fencing_token", validInteger 0 maxSafeInteger),
    ("accepted_at", validTimestamp),
    ("queued_at", nullable validTimestamp),
    ("started_at", nullable validTimestamp),
    ("finished_at", nullable validTimestamp),
    ("terminal_reason", nullable (stringCheck terminalReasons.contains)),
    ("receipt_reference", nullable (stringCheck matchesReceipt)),
    ("audit_sequence", validInteger 1 maxSafeInteger)]

/-- `parseProductionRun`. -/
def parseProductionRun (value : Json) : Except String ViewedRun := do
  let item ← recordOr "Production run response is invalid" value
  throwUnless (exactKeys item runKeys && passes item runChecks &&
    decide (processCategories.lookup (stringOf item "process") = some (stringOf item "category")))
    "Production run response is invalid"
  let status := stringOf item "status"
  let terminal := isTerminalStatus status
  throwUnless (!(terminal && (nullableOf item "finished_at").isNone ||
    !terminal && (nullableOf item "terminal_reason").isSome))
    "Production run terminal state is invalid"
  let acceptedAt := stringOf item "accepted_at"
  let queuedAt := nullableOf item "queued_at"
  let startedAt := nullableOf item "started_at"
  let finishedAt := nullableOf item "finished_at"
  .ok
    { runId := stringOf item "run_id"
      organizationId := stringOf item "organization_id"
      taskId := stringOf item "task_id"
      process := stringOf item "process"
      category := stringOf item "category"
      approvalRequestId := nullableOf item "approval_request_id"
      actionType := stringOf item "action_type"
      status := status
      version := numberOf item "version"
      acceptedAt := acceptedAt
      queuedAt := queuedAt
      startedAt := startedAt
      finishedAt := finishedAt
      updatedAt := latestTimestamp [some acceptedAt, queuedAt, startedAt, finishedAt]
      terminalReason := nullableOf item "terminal_reason"
      receiptReference := nullableOf item "receipt_reference"
      auditSequence := numberOf item "audit_sequence" }

/-! ## The events -/

/-- The fields of the attributes in their order, with their tests. -/
def attributeChecks : List (String × (Json → Bool)) :=
  [("schema_version", textCheck "w13-trace-attributes/1.0"),
    ("run_status", nullable (stringCheck runStatuses.contains)),
    ("approval_request_id", nullable (stringCheck (matchesId .apr))),
    ("grant_id", nullable (stringCheck (matchesId .grt))),
    ("execution_id", nullable (stringCheck (matchesId .exe))),
    ("authorization_hash", nullable (stringCheck matchesSha256)),
    ("approval_set_hash", nullable (stringCheck matchesSha256)),
    ("outbox_id", nullable (stringCheck (matchesId .out))),
    ("outbox_status", nullable (stringCheck
      ["ready", "leased", "dispatched", "closed", "cancelled", "expired", "failed"].contains)),
    ("lease_status", nullable (stringCheck
      ["active", "released", "expired", "completed", "failed"].contains)),
    ("workflow_hash", nullable (stringCheck matchesSha256)),
    ("worker_reference", nullable (stringCheck matchesSha256)),
    ("receipt_reference", nullable (stringCheck matchesReceipt)),
    ("checkpoint_hash", nullable (stringCheck matchesSha256)),
    ("audit_sequence", nullable (validInteger 1 maxSafeInteger)),
    ("version", nullable (validInteger 1 maxSafeInteger)),
    ("fencing_token", nullable (validInteger 0 maxSafeInteger)),
    ("lease_version", nullable (validInteger 0 maxSafeInteger)),
    ("attempt_count", nullable (validInteger 0 3)),
    ("count", nullable (validInteger 0 1000000)),
    ("event_count", nullable (validInteger 0 1000000)),
    ("step_count", nullable (validInteger 0 64)),
    ("checkpoint_count", nullable (validInteger 0 64)),
    ("activity_attempts", nullable (validInteger 0 64)),
    ("retries", nullable (validInteger 0 64)),
    ("session_recoveries", nullable (validInteger 0 8)),
    ("replans", nullable (validInteger 0 8)),
    ("route_decisions", nullable (validInteger 0 1000000)),
    ("dom_observations", nullable (validInteger 0 1000000)),
    ("images", nullable (validInteger 0 1000000)),
    ("duration_ms", nullable (validInteger 0 3600000)),
    ("latency_ms", nullable (validInteger 0 3600000)),
    ("model_calls", nullable (validInteger 0 1000000)),
    ("input_tokens", nullable (validInteger 0 1000000000)),
    ("output_tokens", nullable (validInteger 0 1000000000)),
    ("fake_cost_microusd", nullable (validInteger 0 1000000000)),
    ("real_cost_microusd", nullable (numberCheck 0)),
    ("step_id", nullable (stringCheck matchesStep)),
    ("completed_step_ids", fun value => match value with
      | .arr items => decide (items.length ≤ 16) && items.all (stringCheck matchesStep)
      | _ => false),
    ("sensitive_fields_present", falseCheck)]

/-- `parseTraceAttributes`. -/
def parseTraceAttributes (value : Json) : Except String Unit := do
  let item ← recordOr "Trace attributes are invalid" value
  throwUnless (exactKeys item (attributeChecks.map (·.1)) && passes item attributeChecks)
    "Trace attributes are invalid"

/-- A `SafeTraceEvent`. -/
structure SafeTraceEvent where
  sequence : Int
  phase : String
  status : String
  failureCategory : String
  reason : String
  observedAt : String
  deriving DecidableEq

def eventKeys : List String :=
  ["schema_version", "event_id", "organization_id", "run_id", "event_sequence", "trace_id",
    "span_id", "parent_span_id", "phase", "status", "failure_category", "reason", "attributes",
    "attributes_hash", "event_hash", "observed_at"]

def eventChecks (organizationId runId traceId : String) : List (String × (Json → Bool)) :=
  [("schema_version", textCheck "w13-observability-event/1.0"),
    ("event_id", stringCheck (matchesId .obs)),
    ("organization_id", textCheck organizationId),
    ("run_id", textCheck runId),
    ("event_sequence", validInteger 1 256),
    ("trace_id", textCheck traceId),
    ("span_id", stringCheck (matchesHex 16)),
    ("parent_span_id", nullable (stringCheck (matchesHex 16))),
    ("phase", stringCheck tracePhases.contains),
    ("status", stringCheck traceStatuses.contains),
    ("failure_category", stringCheck failureCategories.contains),
    ("reason", stringCheck traceReasons.contains),
    ("attributes_hash", stringCheck matchesSha256),
    ("event_hash", stringCheck matchesSha256),
    ("observed_at", validTimestamp)]

/-- `parseTraceEvent`. -/
def parseTraceEvent (value : Json) (organizationId runId traceId : String) :
    Except String SafeTraceEvent := do
  let item ← recordOr "Trace event is invalid" value
  throwUnless (exactKeys item eventKeys && passes item (eventChecks organizationId runId traceId))
    "Trace event is invalid"
  parseTraceAttributes ((field item "attributes").getD .null)
  .ok
    { sequence := numberOf item "event_sequence"
      phase := stringOf item "phase"
      status := stringOf item "status"
      failureCategory := stringOf item "failure_category"
      reason := stringOf item "reason"
      observedAt := stringOf item "observed_at" }

/-- A `SafeReplayStep`. -/
structure SafeReplayStep where
  ordinal : Int
  phase : String
  status : String
  failureCategory : String
  reason : String
  observedAt : String
  deriving DecidableEq

def replayKeys : List String :=
  ["schema_version", "ordinal", "phase", "status", "failure_category", "reason",
    "reference_hash", "observed_at"]

def replayChecks : List (String × (Json → Bool)) :=
  [("schema_version", textCheck "w13-replay-step/1.0"),
    ("ordinal", validInteger 1 256),
    ("phase", stringCheck tracePhases.contains),
    ("status", stringCheck traceStatuses.contains),
    ("failure_category", stringCheck failureCategories.contains),
    ("reason", stringCheck traceReasons.contains),
    ("reference_hash", stringCheck matchesSha256),
    ("observed_at", validTimestamp)]

/-- `parseReplayStep`. -/
def parseReplayStep (value : Json) : Except String SafeReplayStep := do
  let item ← recordOr "Replay step is invalid" value
  throwUnless (exactKeys item replayKeys && passes item replayChecks) "Replay step is invalid"
  .ok
    { ordinal := numberOf item "ordinal"
      phase := stringOf item "phase"
      status := stringOf item "status"
      failureCategory := stringOf item "failure_category"
      reason := stringOf item "reason"
      observedAt := stringOf item "observed_at" }

/-! ## The trace -/

/-- A `RunTrace`. -/
structure RunTrace where
  run : ViewedRun
  events : List SafeTraceEvent
  replaySteps : List SafeReplayStep
  terminalStatus : String
  failureCategory : String

/-- `raw.parent_span_id` is the span before, and `null` at the first event. -/
def parentIs (raw : Item) (previousSpanId : Option String) : Bool :=
  match field raw "parent_span_id", previousSpanId with
  | some .null, none => true
  | some (.str s), some previous => s = previous
  | _, _ => false

/-- The events with the span id of the one before them. -/
def parseTraceEvents (organizationId runId traceId : String) :
    Option String → List Json → Except String (List SafeTraceEvent)
  | _, [] => .ok []
  | previousSpanId, event :: rest => do
    let raw ← recordOr "Trace event is invalid" event
    throwUnless (parentIs raw previousSpanId) "Run trace parent chain is invalid"
    let parsed ← parseTraceEvent event organizationId runId traceId
    let events ← parseTraceEvents organizationId runId traceId (some (stringOf raw "span_id")) rest
    .ok (parsed :: events)

def parseReplaySteps : List Json → Except String (List SafeReplayStep)
  | [] => .ok []
  | step :: rest => do
    let parsed ← parseReplayStep step
    let steps ← parseReplaySteps rest
    .ok (parsed :: steps)

/-- The numbers count from one. -/
def numbered (numbers : List Int) : Bool :=
  numbers.zipIdx.all fun n => n.1 = n.2 + 1

def costChecks : List (String × (Json → Bool)) :=
  [("schema_version", textCheck "w13-cost-summary/1.0"),
    ("model_calls", validInteger 0 1000000),
    ("input_tokens", validInteger 0 1000000000),
    ("output_tokens", validInteger 0 1000000000),
    ("fake_cost_microusd", validInteger 0 1000000000),
    ("real_cost_microusd", numberCheck 0)]

def dashboardKeys : List String :=
  ["schema_version", "event_count", "replay_step_count", "terminal_status", "failure_category",
    "model_calls", "fake_cost_microusd", "real_cost_microusd", "sensitive_fields_present",
    "dashboard_hash"]

def dashboardChecks (events replaySteps : Nat) (status : String) :
    List (String × (Json → Bool)) :=
  [("schema_version", textCheck "w13-trace-dashboard/1.0"),
    ("event_count", numberCheck events),
    ("replay_step_count", numberCheck replaySteps),
    ("terminal_status", stringCheck runStatuses.contains),
    ("terminal_status", textCheck status),
    ("failure_category", stringCheck failureCategories.contains),
    ("model_calls", validInteger 0 1000000),
    ("fake_cost_microusd", validInteger 0 1000000000),
    ("real_cost_microusd", numberCheck 0),
    ("sensitive_fields_present", falseCheck),
    ("dashboard_hash", stringCheck matchesSha256)]

/-- An array of at most 256 items. -/
def arrayOf (item : Item) (name : String) : Option (List Json) :=
  match field item name with
  | some (.arr items) => if items.length ≤ 256 then some items else none
  | _ => none

/-- The checks of a response before its parts. -/
def openRunTrace (item : Item) : Option (String × List Json × List Json) := do
  require (exactKeys item ["schema_version", "run", "trace_id", "events", "replay_steps", "cost",
    "dashboard", "export_hash"])
  require (isText item "schema_version" "w13-run-trace-export/1.0")
  let traceId ← stringField item "trace_id" (matchesHex 32)
  let events ← arrayOf item "events"
  let replaySteps ← arrayOf item "replay_steps"
  let _ ← stringField item "export_hash" matchesSha256
  some (traceId, events, replaySteps)

/-- `parseRunTrace`. -/
def parseRunTrace (value : Json) : Except String RunTrace := do
  let item ← recordOr "Run trace response is invalid" value
  match openRunTrace item with
  | none => .error "Run trace response is invalid"
  | some (traceId, rawEvents, rawSteps) =>
    let run ← parseProductionRun ((field item "run").getD .null)
    let events ← parseTraceEvents run.organizationId run.runId traceId none rawEvents
    let replaySteps ← parseReplaySteps rawSteps
    throwUnless (numbered (events.map (·.sequence)) && numbered (replaySteps.map (·.ordinal)))
      "Run trace ordering is invalid"
    let cost ← recordOr "Trace cost summary is invalid" ((field item "cost").getD .null)
    throwUnless (exactKeys cost (costChecks.map (·.1)) && passes cost costChecks)
      "Trace cost summary is invalid"
    let dashboard ← recordOr "Trace dashboard is invalid" ((field item "dashboard").getD .null)
    throwUnless (exactKeys dashboard dashboardKeys &&
      passes dashboard (dashboardChecks events.length replaySteps.length run.status))
      "Trace dashboard is invalid"
    .ok
      { run := run
        events := events
        replaySteps := replaySteps
        terminalStatus := stringOf dashboard "terminal_status"
        failureCategory := stringOf dashboard "failure_category" }

end FlowPilot.Web
