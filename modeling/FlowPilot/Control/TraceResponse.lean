import FlowPilot.Control.Production
import FlowPilot.Control.TraceExport

/-!
# The response of the trace endpoint

`run_read` of `production.py` with the schema it builds, and the response body of a
`RunTraceExport`: every field of its models, the absent ones as `null`.
-/

namespace FlowPilot.Control

/-- `^[A-Za-z0-9_-]{8,80}$`. -/
def matchesReceipt (s : String) : Bool :=
  (utf8 s).all idChar && decide (8 ≤ (utf8 s).length ∧ (utf8 s).length ≤ 80)

/-! ## The run -/

/-- The constraints of `ProductionRunRead` that the types of the columns do not have. -/
structure RunReadable (run : ProductionRun) : Prop where
  runId : matchesId .run run.runId.text = true
  organizationId : matchesId .org run.organizationId.text = true
  requesterUserId : matchesId .usr run.requesterUserId.text = true
  executorUserId : matchesId .usr run.executorUserId.text = true
  approvalRequestId : run.approvalRequestId.all (fun i => matchesId .apr i.text) = true
  grantId : run.grantId.all (fun i => matchesId .grt i.text) = true
  executionId : run.executionId.all (fun i => matchesId .exe i.text) = true
  actionType : matchesAction run.actionType = true
  version : 1 ≤ run.version
  receiptReference : run.receiptReference.all matchesReceipt = true
  auditSequence : 1 ≤ run.auditSequence

instance (run : ProductionRun) : Decidable (RunReadable run) :=
  decidable_of_iff
    (matchesId .run run.runId.text = true ∧ matchesId .org run.organizationId.text = true ∧
      matchesId .usr run.requesterUserId.text = true ∧
      matchesId .usr run.executorUserId.text = true ∧
      run.approvalRequestId.all (fun i => matchesId .apr i.text) = true ∧
      run.grantId.all (fun i => matchesId .grt i.text) = true ∧
      run.executionId.all (fun i => matchesId .exe i.text) = true ∧
      matchesAction run.actionType = true ∧ 1 ≤ run.version ∧
      run.receiptReference.all matchesReceipt = true ∧ 1 ≤ run.auditSequence)
    ⟨fun ⟨h₁, h₂, h₃, h₄, h₅, h₆, h₇, h₈, h₉, h₁₀, h₁₁⟩ =>
      ⟨h₁, h₂, h₃, h₄, h₅, h₆, h₇, h₈, h₉, h₁₀, h₁₁⟩,
     fun h => ⟨h.1, h.2, h.3, h.4, h.5, h.6, h.7, h.8, h.9, h.10, h.11⟩⟩

/-- `run_read`. -/
def runRead (run : ProductionRun) : Except ExportFailure ProductionRun :=
  if RunReadable run then .ok run else .error .validationError

/-- The body of a `ProductionRunRead`. -/
def runFields (run : ProductionRun) : List (String × Json) :=
  [("schema_version", .str "w12-production-run/1.0"),
    ("run_id", .id run.runId),
    ("organization_id", .id run.organizationId),
    ("requester_user_id", .id run.requesterUserId),
    ("executor_user_id", .id run.executorUserId),
    ("task_id", .str run.taskId.value),
    ("process", .str run.process.value),
    ("category", .str run.category.value),
    ("approval_request_id", .ofOption .id run.approvalRequestId),
    ("grant_id", .ofOption .id run.grantId),
    ("execution_id", .ofOption .id run.executionId),
    ("action_type", .str run.actionType),
    ("parameter_hash", .digest run.parameterHash),
    ("authorization_hash", .digest run.authorizationHash),
    ("approval_set_hash", .ofOption .digest run.approvalSetHash),
    ("payload_hash", .digest run.payloadHash),
    ("status", .str run.status.value),
    ("version", .num run.version),
    ("workflow_hash", .digest run.workflowHash),
    ("fencing_token", .num run.fencingToken),
    ("accepted_at", .time run.acceptedAt),
    ("queued_at", .ofOption .time run.queuedAt),
    ("started_at", .ofOption .time run.startedAt),
    ("finished_at", .ofOption .time run.finishedAt),
    ("terminal_reason", .ofOption (fun reason => .str reason.value) run.terminalReason),
    ("receipt_reference", .ofOption .str run.receiptReference),
    ("audit_sequence", .num run.auditSequence)]

/-! ## The events -/

/-- The default of a field of `TraceAttributes`. -/
def attributeDefault (name : String) : Json :=
  if name = "schema_version" then .str "w13-trace-attributes/1.0"
  else if name = "completed_step_ids" then .arr []
  else if name = "sensitive_fields_present" then .bool false
  else .null

/-- The body of a `TraceAttributes`. -/
def attributeFields (attributes : List (String × Json)) : List (String × Json) :=
  traceFields.map fun f => (f.1, (attributes.lookup f.1).getD (attributeDefault f.1))

/-- The body of an `ObservabilityEventRead`. -/
def eventFields (event : EventRead) : List (String × Json) :=
  [("schema_version", .str "w13-observability-event/1.0"),
    ("event_id", .id event.eventId),
    ("organization_id", .id event.organizationId),
    ("run_id", .id event.runId),
    ("event_sequence", .num event.eventSequence),
    ("trace_id", .str event.traceId),
    ("span_id", .str event.spanId),
    ("parent_span_id", .ofOption .str event.parentSpanId),
    ("phase", .str event.phase.value),
    ("status", .str event.status.value),
    ("failure_category", .str event.failureCategory.value),
    ("reason", .str event.reason.value),
    ("attributes", .obj (attributeFields event.attributes)),
    ("attributes_hash", .digest event.attributesHash),
    ("event_hash", .digest event.eventHash),
    ("observed_at", .time event.observedAt)]

/-- The body of a `ReplayStep`. -/
def replayFields (step : ReplayStep) : List (String × Json) :=
  [("schema_version", .str "w13-replay-step/1.0"),
    ("ordinal", .num step.ordinal),
    ("phase", .str step.phase.value),
    ("status", .str step.status.value),
    ("failure_category", .str step.failureCategory.value),
    ("reason", .str step.reason.value),
    ("reference_hash", .digest step.referenceHash),
    ("observed_at", .time step.observedAt)]

/-! ## The export -/

/-- The body of a `CostSummary`. -/
def costFields (cost : CostSummary) : List (String × Json) :=
  [("schema_version", .str "w13-cost-summary/1.0"),
    ("model_calls", .num cost.modelCalls),
    ("input_tokens", .num cost.inputTokens),
    ("output_tokens", .num cost.outputTokens),
    ("fake_cost_microusd", .num cost.fakeCostMicrousd),
    ("real_cost_microusd", .num 0)]

/-- The body of a `TraceDashboard`. -/
def traceDashboardFields (dashboard : TraceDashboard) : List (String × Json) :=
  [("schema_version", .str "w13-trace-dashboard/1.0"),
    ("event_count", .num dashboard.eventCount),
    ("replay_step_count", .num dashboard.replayStepCount),
    ("terminal_status", .str dashboard.terminalStatus.value),
    ("failure_category", .str dashboard.failureCategory.value),
    ("model_calls", .num dashboard.modelCalls),
    ("fake_cost_microusd", .num dashboard.fakeCostMicrousd),
    ("real_cost_microusd", .num 0),
    ("sensitive_fields_present", .bool false),
    ("dashboard_hash", .digest dashboard.dashboardHash)]

/-- `export_fields`. -/
def exportFields (exported : RunTraceExport) : List (String × Json) :=
  [("schema_version", .str "w13-run-trace-export/1.0"),
    ("run", .obj (runFields exported.run)),
    ("trace_id", .str exported.traceId),
    ("events", .arr (exported.events.map fun event => .obj (eventFields event))),
    ("replay_steps", .arr (exported.replaySteps.map fun step => .obj (replayFields step))),
    ("cost", .obj (costFields exported.cost)),
    ("dashboard", .obj (traceDashboardFields exported.dashboard))]

variable [Sha256]

/-- The body of a `RunTraceExport`. -/
def exportBody (exported : RunTraceExport) : Json :=
  .obj (exportFields exported ++
    [("export_hash", .digest (stableHash (.obj (exportFields exported))))])

/-- `read_production_run_trace` on the row of the run. -/
def readProductionRunTrace (db : Db) (run : ProductionRun) : Except ExportFailure Json := do
  let run ← runRead run
  let exported ← buildRunTraceExport db run
  .ok (exportBody exported)

end FlowPilot.Control
