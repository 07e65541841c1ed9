import FlowPilot.Store.Events

/-!
# The worker's audit and trace writers

`_append_audit` and `_append_trace_event` of the workflow worker's repository.
-/

open FlowPilot.Lib

namespace FlowPilot.Worker

variable [Sha256]

/-! ## Audit events -/

/-- The fields that an audit event's hash is taken over. -/
def auditEventFields (event : AuditEvent) (payload : Json) : Json :=
  .obj [("schema_version", .str "w11-audit-event/1.0"),
    ("event_id", .str event.eventId),
    ("organization_id", .id event.organizationId),
    ("sequence", .num event.sequence),
    ("event_type", .str event.eventType.value),
    ("actor_reference", .str event.actorReference),
    ("subject_reference", .str event.subjectReference),
    ("payload", payload),
    ("previous_hash", .digest event.previousHash),
    ("created_at", .time event.createdAt)]

/-- The audit event that follows `head`. -/
def nextAuditEvent (head : AuditChainHead) (organizationId : OrganizationId) (eventId : Id .aud)
    (eventType : AuditEventType) (actorReference : Digest) (subjectReference : String)
    (payload : Json) (now : Time) : AuditEvent :=
  let event : AuditEvent :=
    { organizationId := organizationId
      sequence := head.headSequence + 1
      eventId := eventId.text
      eventType := eventType
      actorReference := actorReference.hex
      subjectReference := subjectReference
      payloadJson := canonicalBytes payload
      payloadHash := stableHash payload
      previousHash := head.headHash
      eventHash := head.headHash
      createdAt := now }
  { event with eventHash := stableHash (auditEventFields event payload) }

/-- `_append_audit`. -/
def appendAudit (db : Db) (organizationId : OrganizationId) (eventType : AuditEventType)
    (actorReference : Digest) (subjectReference : String) (payload : List (String × Json))
    (now : Time) : Except Failure (Nat × Db) :=
  if (db.directory.organizations.get? organizationId).isNone then
    .error (.runtimeError "organization audit owner is unavailable")
  else
    match hhead : db.audit.heads.get? organizationId with
    | none => .error (.runtimeError "No row was found when one was required")
    | some head =>
      let event := nextAuditEvent head organizationId ⟨db.audit.events.rows.length⟩ eventType
        actorReference subjectReference (.obj payload) now
      .ok (event.sequence, { db with audit := db.audit.append head event hhead rfl })

theorem appendAudit_ok {db after : Db} {organizationId : OrganizationId}
    {eventType : AuditEventType} {actorReference : Digest} {subjectReference : String}
    {payload : List (String × Json)} {now : Time} {sequence : Nat}
    (h : appendAudit db organizationId eventType actorReference subjectReference payload now =
      .ok (sequence, after)) : ∃ audit, after = { db with audit := audit } := by
  unfold appendAudit at h
  split at h
  · cases h
  · split at h
    · cases h
    · cases h
      exact ⟨_, rfl⟩

/-- The event that is appended says what the caller said. -/
theorem appendAudit_event {db after : Db} {organizationId : OrganizationId}
    {eventType : AuditEventType} {actorReference : Digest} {subjectReference : String}
    {payload : List (String × Json)} {now : Time} {sequence : Nat}
    (h : appendAudit db organizationId eventType actorReference subjectReference payload now =
      .ok (sequence, after)) :
    ∃ head event hhead hsequence,
      after = { db with audit := db.audit.append head event hhead hsequence } ∧
      event.organizationId = organizationId ∧ event.eventType = eventType ∧
      event.actorReference = actorReference.hex ∧ event.subjectReference = subjectReference ∧
      event.payloadJson = canonicalBytes (.obj payload) := by
  unfold appendAudit at h
  split at h
  · cases h
  · split at h
    · cases h
    next head hhead =>
      cases h
      exact ⟨head, _, hhead, rfl, rfl, rfl, rfl, rfl, rfl, rfl⟩

theorem appendAudit_logged {db after : Db} {organizationId : OrganizationId}
    {eventType : AuditEventType} {actorReference : Digest} {subjectReference : String}
    {payload : List (String × Json)} {now : Time} {sequence : Nat}
    (h : appendAudit db organizationId eventType actorReference subjectReference payload now =
      .ok (sequence, after)) : db.Logged after := by
  obtain ⟨head, event, hhead, hsequence, rfl, _⟩ := appendAudit_event h
  exact ⟨⟨_, _, rfl⟩, List.prefix_append _ _, List.prefix_refl _⟩

theorem appendAudit_avoids (db : Db) (organizationId : OrganizationId)
    (eventType : AuditEventType) (actorReference : Digest) (subjectReference : String)
    (payload : List (String × Json)) (now : Time) :
    Avoids .integrityError
      (appendAudit db organizationId eventType actorReference subjectReference payload now) := by
  unfold appendAudit
  split
  · exact Avoids.error (by simp)
  · split
    · exact Avoids.error (by simp)
    · exact Avoids.ok _ _

/-! ## Trace events -/

def traceAllowedAttributeKeys : List String :=
  ["schema_version", "run_status", "approval_request_id", "grant_id", "execution_id",
    "authorization_hash", "approval_set_hash", "outbox_id", "outbox_status", "lease_status",
    "workflow_hash", "worker_reference", "receipt_reference", "checkpoint_hash",
    "audit_sequence", "version", "fencing_token", "lease_version", "attempt_count", "count",
    "event_count", "step_count", "checkpoint_count", "activity_attempts", "retries",
    "session_recoveries", "replans", "route_decisions", "dom_observations", "images",
    "duration_ms", "latency_ms", "model_calls", "input_tokens", "output_tokens",
    "fake_cost_microusd", "real_cost_microusd", "step_id", "completed_step_ids",
    "sensitive_fields_present"]

def traceForbiddenText : List String :=
  ["bearer ", "access_token", "authorization_code", "credential", "nonce", "cookie",
    "password", "private_key", "@", "postgresql://", "sqlite+pysqlite://", "%systemdrive%",
    ":\\"]

/-- `safe[key] = value`. -/
def setField (fields : List (String × Json)) (key : String) (value : Json) :
    List (String × Json) :=
  if fields.any (fun f => f.1 = key) then
    fields.map fun f => if f.1 = key then (key, value) else f
  else fields ++ [(key, value)]

/-- The checks on one attribute; `none` is a value that is skipped. -/
def safeTraceValue (key : String) (value : Json) : Except Failure (Option Json) :=
  if key ∉ traceAllowedAttributeKeys then
    .error (.runtimeError "trace attributes are outside the W13 schema")
  else
    match value with
    | .null => .ok none
    | .bool b =>
      if key ≠ "sensitive_fields_present" ∨ b then
        .error (.runtimeError "trace boolean attribute is outside the W13 schema")
      else .ok (some value)
    | .num n =>
      if 0 ≤ n then .ok (some value)
      else .error (.runtimeError "trace attribute value is outside the W13 schema")
    | .str s =>
      if 1 ≤ textLength s ∧ textLength s ≤ 120 then
        if traceForbiddenText.any fun marker => containsText (utf8 marker) (lowerBytes (utf8 s)) then
          .error (.runtimeError "trace string attribute contains forbidden material")
        else .ok (some value)
      else .error (.runtimeError "trace attribute value is outside the W13 schema")
    | .arr items =>
      if items.length ≤ 16 then
        if items.all fun item =>
            match item with
            | .str s => decide (1 ≤ textLength s ∧ textLength s ≤ 40)
            | _ => false then
          .ok (some value)
        else .error (.runtimeError "trace list attribute is outside the W13 schema")
      else .error (.runtimeError "trace attribute value is outside the W13 schema")
    | .obj _ => .error (.runtimeError "trace attribute value is outside the W13 schema")

def collectTraceAttributes (safe : List (String × Json)) :
    List (String × Json) → Except Failure (List (String × Json))
  | [] => .ok safe
  | (key, value) :: rest => do
    match ← safeTraceValue key value with
    | none => collectTraceAttributes safe rest
    | some value => collectTraceAttributes (setField safe key value) rest

/-- `_safe_trace_attributes`. -/
def safeTraceAttributes (attributes : List (String × Json)) : Except Failure Json := do
  let safe ← collectTraceAttributes
    [("schema_version", .str "w13-trace-attributes/1.0"),
      ("sensitive_fields_present", .bool false)] attributes
  if canonicalLength (.obj safe) > 2048 then
    .error (.runtimeError "trace attributes exceed the W13 byte bound")
  else .ok (.obj safe)

def traceId (organizationId : OrganizationId) (runId : RunId) : String :=
  (stableHash (.obj [("schema_version", .str "w13-trace-id/1.0"),
    ("organization_id", .id organizationId),
    ("run_id", .id runId)])).take 32

def traceSpanId (organizationId : OrganizationId) (runId : RunId) (eventSequence : Nat)
    (phase : TracePhase) (reason : TraceReason) : String :=
  (stableHash (.obj [("schema_version", .str "w13-span-id/1.0"),
    ("organization_id", .id organizationId),
    ("run_id", .id runId),
    ("event_sequence", .num eventSequence),
    ("phase", .str phase.value),
    ("reason", .str reason.value)])).take 16

/-- The record that follows the events of its run, with its hash over all other fields. -/
def traceRecord (events : List ObservabilityEvent) (eventId : Id .obs)
    (organizationId : OrganizationId) (runId : RunId) (entry : TraceEntry)
    (safeAttributes : Json) (now : Time) : ObservabilityEvent :=
  let eventSequence := lastEventSequence events + 1
  let parentSpanId :=
    if eventSequence > 1 then
      (events.find? fun e => e.eventSequence = 1).map (·.spanId)
    else none
  let spanId := traceSpanId organizationId runId eventSequence entry.phase entry.reason
  let attributesHash := stableHash safeAttributes
  let eventFields : Json :=
    .obj [("schema_version", .str "w13-observability-event/1.0"),
      ("event_id", .id eventId),
      ("organization_id", .id organizationId),
      ("run_id", .id runId),
      ("event_sequence", .num eventSequence),
      ("trace_id", .str (traceId organizationId runId)),
      ("span_id", .str spanId),
      ("parent_span_id", .ofOption .str parentSpanId),
      ("phase", .str entry.phase.value),
      ("status", .str entry.status.value),
      ("failure_category", .str entry.failureCategory.value),
      ("reason", .str entry.reason.value),
      ("attributes", safeAttributes),
      ("attributes_hash", .digest attributesHash),
      ("observed_at", .time now)]
  { eventId := eventId
    organizationId := organizationId
    runId := runId
    eventSequence := eventSequence
    traceId := traceId organizationId runId
    spanId := spanId
    parentSpanId := parentSpanId
    phase := entry.phase
    status := entry.status
    failureCategory := entry.failureCategory
    reason := entry.reason
    attributesJson := safeAttributes
    attributesHash := attributesHash
    eventHash := stableHash eventFields
    observedAt := now }

/-- `_append_trace_event`: nothing is written for a run that does not exist. -/
def appendTraceEvent (db : Db) (organizationId : OrganizationId) (runId : RunId)
    (entry : TraceEntry) (now : Time) : Except Failure Db :=
  if (db.runs.one? fun r => r.organizationId = organizationId ∧ r.runId = runId).isNone then
    .ok db
  else
    let events := runTraces db organizationId runId
    let eventSequence := lastEventSequence events + 1
    if eventSequence > 256 then
      .error (.runtimeError "trace event sequence exceeds the W13 bound")
    else do
      let safeAttributes ← safeTraceAttributes entry.attributes
      let event := traceRecord events ⟨db.traces.length⟩ organizationId runId entry
        safeAttributes now
      .ok { db with traces := db.traces ++ [event] }

theorem appendTraceEvent_ok {db after : Db} {organizationId : OrganizationId} {runId : RunId}
    {entry : TraceEntry} {now : Time}
    (h : appendTraceEvent db organizationId runId entry now = .ok after) :
    ∃ traces, after = { db with traces := traces } := by
  unfold appendTraceEvent at h
  split at h
  · cases h
    exact ⟨_, rfl⟩
  · dsimp only at h
    split at h
    · cases h
    · rcases ok_of_bind h with ⟨attributes, _, hrest⟩
      cases hrest
      exact ⟨_, rfl⟩

/-- The event of a run that exists says what the entry says. -/
theorem appendTraceEvent_event {db after : Db} {organizationId : OrganizationId} {runId : RunId}
    {entry : TraceEntry} {now : Time}
    (hrun : (db.runs.one? fun r =>
      r.organizationId = organizationId ∧ r.runId = runId).isSome)
    (h : appendTraceEvent db organizationId runId entry now = .ok after) :
    ∃ event, after = { db with traces := db.traces ++ [event] } ∧
      event.organizationId = organizationId ∧ event.runId = runId ∧
      event.phase = entry.phase ∧ event.status = entry.status ∧ event.reason = entry.reason ∧
      event.failureCategory = entry.failureCategory := by
  unfold appendTraceEvent at h
  split at h
  next hnone =>
    rw [Option.isNone_iff_eq_none.mp hnone] at hrun
    cases hrun
  · dsimp only at h
    split at h
    · cases h
    · rcases ok_of_bind h with ⟨attributes, _, hrest⟩
      cases hrest
      exact ⟨_, rfl, rfl, rfl, rfl, rfl, rfl, rfl⟩

theorem appendTraceEvent_logged {db after : Db} {organizationId : OrganizationId}
    {runId : RunId} {entry : TraceEntry} {now : Time}
    (h : appendTraceEvent db organizationId runId entry now = .ok after) : db.Logged after := by
  unfold appendTraceEvent at h
  split at h
  · cases h
    exact Db.Logged.refl db
  · dsimp only at h
    split at h
    · cases h
    · rcases ok_of_bind h with ⟨attributes, _, hrest⟩
      cases hrest
      exact ⟨⟨_, _, rfl⟩, List.prefix_refl _, List.prefix_append _ _⟩

omit [Sha256] in
theorem safeTraceValue_avoids (key : String) (value : Json) :
    Avoids .integrityError (safeTraceValue key value) := by
  unfold safeTraceValue
  repeat' split
  all_goals first
    | exact Avoids.ok _ _
    | exact Avoids.error (by simp)

omit [Sha256] in
theorem collectTraceAttributes_avoids (safe attributes : List (String × Json)) :
    Avoids .integrityError (collectTraceAttributes safe attributes) := by
  induction attributes generalizing safe with
  | nil => exact Avoids.ok _ _
  | cons field rest ih =>
    unfold collectTraceAttributes
    apply Avoids.bind (safeTraceValue_avoids field.1 field.2)
    intro value _
    cases value with
    | none => exact ih safe
    | some value => exact ih _

theorem appendTraceEvent_avoids (db : Db) (organizationId : OrganizationId) (runId : RunId)
    (entry : TraceEntry) (now : Time) :
    Avoids .integrityError (appendTraceEvent db organizationId runId entry now) := by
  unfold appendTraceEvent safeTraceAttributes
  split
  · exact Avoids.ok _ _
  · dsimp only
    split
    · exact Avoids.error (by simp)
    · apply Avoids.bind
      · apply Avoids.bind (collectTraceAttributes_avoids _ _)
        intro safe _
        split
        · exact Avoids.error (by simp)
        · exact Avoids.ok _ _
      · intro attributes _
        exact Avoids.ok _ _

end FlowPilot.Worker
