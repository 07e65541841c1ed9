import FlowPilot.Store.Events

/-!
# The Control API's audit and trace writers

`append_audit_event` and `append_observability_event`.
-/

open FlowPilot.Lib

namespace FlowPilot.Control

variable [Sha256]

/-! ## Audit events -/

def prohibitedKeys : List String :=
  ["token", "credential", "nonce", "claims", "authorization_code", "cookie", "password",
    "private_key", "name", "email", "username", "page", "dom", "image", "form", "parameters",
    "machine_path"]

def allowedKeys : List String :=
  ["schema_version", "action_type", "risk_level", "parameter_hash", "request_id",
    "decision_id", "authority_id", "approval_role", "request_status", "grant_id",
    "grant_status", "execution_id", "reason", "http_status", "count", "version",
    "receipt_reference", "authorization_hash", "valid", "run_id", "run_status", "outbox_id",
    "outbox_status", "lease_id", "lease_status", "worker_reference", "workflow_hash",
    "fencing_token", "attempt_count", "retry_after", "duration_bucket", "latency_bucket"]

def closedValue : Json → Bool
  | .null | .bool _ | .num _ => true
  | .str s => decide (textLength s ≤ 120)
  | .arr _ | .obj _ => false

/-- `_closed_payload`. -/
def closedPayload (payload : List (String × Json)) : Except Failure Json :=
  if payload.all fun f => allowedKeys.contains f.1 && !prohibitedKeys.contains f.1 &&
      closedValue f.2 then
    if canonicalLength (.obj payload) > 2048 then .error .auditPayloadRejected
    else .ok (.obj payload)
  else .error .auditPayloadRejected

/-- `_event_fields` of the audit chain. -/
def auditEventFields (event : AuditEvent) (payload : Json) : Json :=
  .obj [("schema_version", .str "w11-audit-event/1.0"),
    ("event_id", .str event.eventId),
    ("organization_id", .id event.organizationId),
    ("sequence", .num event.sequence),
    ("event_type", .str event.eventType.value),
    ("actor_reference", .str event.actorReference),
    ("subject_reference", .str event.subjectReference),
    ("payload", payload),
    ("previous_hash", .digest event.previousHash),
    ("created_at", .time event.createdAt)]

/-- The audit event that follows `head`. -/
def nextAuditEvent (head : AuditChainHead) (organizationId : OrganizationId) (eventId : Id .aud)
    (eventType : AuditEventType) (actorReference : Digest) (subjectReference : String)
    (payload : Json) (now : Time) : AuditEvent :=
  let event : AuditEvent :=
    { organizationId := organizationId
      sequence := head.headSequence + 1
      eventId := eventId.text
      eventType := eventType
      actorReference := actorReference.hex
      subjectReference := subjectReference
      payloadJson := canonicalBytes payload
      payloadHash := stableHash payload
      previousHash := head.headHash
      eventHash := head.headHash
      createdAt := now }
  { event with eventHash := stableHash (auditEventFields event payload) }

/-- `append_audit_event`. -/
def appendAuditEvent (db : Db) (organizationId : OrganizationId) (eventType : AuditEventType)
    (actorReference : Digest) (subjectReference : String) (payload : List (String × Json))
    (now : Time) : Except Failure (Nat × Db) :=
  if textLength subjectReference < 1 ∨ 68 < textLength subjectReference then
    .error .auditPayloadRejected
  else do
    let closed ← closedPayload payload
    if (db.directory.organizations.get? organizationId).isNone then .error .auditChainMissing
    else
      match hhead : db.audit.heads.get? organizationId with
      | none => .error .auditChainMissing
      | some head =>
        let event := nextAuditEvent head organizationId ⟨db.audit.events.rows.length⟩ eventType
          actorReference subjectReference closed now
        .ok (event.sequence, { db with audit := db.audit.append head event hhead rfl })

theorem appendAuditEvent_ok {db after : Db} {organizationId : OrganizationId}
    {eventType : AuditEventType} {actorReference : Digest} {subjectReference : String}
    {payload : List (String × Json)} {now : Time} {sequence : Nat}
    (h : appendAuditEvent db organizationId eventType actorReference subjectReference payload
      now = .ok (sequence, after)) : ∃ audit, after = { db with audit := audit } := by
  unfold appendAuditEvent at h
  split at h
  · cases h
  · rcases ok_of_bind h with ⟨closed, _, hrest⟩
    split at hrest
    · cases hrest
    · split at hrest
      · cases hrest
      · cases hrest
        exact ⟨_, rfl⟩

omit [Sha256] in
theorem closedPayload_avoids (payload : List (String × Json)) :
    Avoids .integrityError (closedPayload payload) := by
  unfold closedPayload
  split
  · split
    · exact Avoids.error (by simp)
    · exact Avoids.ok _ _
  · exact Avoids.error (by simp)

theorem appendAuditEvent_avoids (db : Db) (organizationId : OrganizationId)
    (eventType : AuditEventType) (actorReference : Digest) (subjectReference : String)
    (payload : List (String × Json)) (now : Time) :
    Avoids .integrityError (appendAuditEvent db organizationId eventType actorReference
      subjectReference payload now) := by
  unfold appendAuditEvent
  split
  · exact Avoids.error (by simp)
  · apply Avoids.bind (closedPayload_avoids payload)
    intro closed _
    split
    · exact Avoids.error (by simp)
    · split
      · exact Avoids.error (by simp)
      · exact Avoids.ok _ _

/-! ## Trace attributes -/

/-- `^<prefix>_[A-Za-z0-9_-]{8,64}$`. -/
def matchesId (kind : IdKind) (s : String) : Bool :=
  let lead := utf8 kind.prefixText ++ [95]
  let rest := (utf8 s).drop lead.length
  startsWith (utf8 s) lead && rest.all idChar && decide (8 ≤ rest.length ∧ rest.length ≤ 64)

/-- `^[0-9a-f]{64}$`. -/
def matchesSha256 (s : String) : Bool :=
  let text := utf8 s
  text.all (fun b => isDigit b || Nat.ble 97 b && Nat.ble b 102) && Nat.beq text.length 64

/-- `^[a-z][a-z0-9_]{1,39}$`. -/
def matchesStep (s : String) : Bool :=
  matchesPattern isLower (fun b => isLower b || isDigit b || Nat.beq b 95) 1 39 s

def textField (ok : String → Bool) : Json → Bool
  | .str s => ok s
  | .null => true
  | _ => false

def intField (low high : Nat) : Json → Bool
  | .num n => decide ((low : Int) ≤ n ∧ n ≤ high)
  | .null => true
  | _ => false

/-- An integer field with a lower bound only. -/
def intFrom (low : Nat) : Json → Bool
  | .num n => decide ((low : Int) ≤ n)
  | .null => true
  | _ => false

def stepsField : Json → Bool
  | .arr items => decide (items.length ≤ 16) && items.all fun item =>
      match item with
      | .str s => matchesStep s
      | _ => false
  | _ => false

/-- `Literal[0]` and `Literal[False]`: each also takes the other, which compares equal. -/
def zeroField : Json → Bool
  | .num n => decide (n = 0)
  | .bool b => !b
  | _ => false

/-- The fields of `TraceAttributes` with what each accepts. -/
def traceFields : List (String × (Json → Bool)) :=
  [("schema_version", fun v => match v with
      | .str s => s = "w13-trace-attributes/1.0"
      | _ => false),
    ("run_status", textField fun s =>
      ["waiting_approval", "queued", "leased", "running", "recovering", "verifying",
        "finished_ungraded", "failed", "cancelled", "expired"].contains s),
    ("approval_request_id", textField (matchesId .apr)),
    ("grant_id", textField (matchesId .grt)),
    ("execution_id", textField (matchesId .exe)),
    ("authorization_hash", textField matchesSha256),
    ("approval_set_hash", textField matchesSha256),
    ("outbox_id", textField (matchesId .out)),
    ("outbox_status", textField fun s =>
      ["ready", "leased", "dispatched", "closed", "cancelled", "expired", "failed"].contains s),
    ("lease_status", textField fun s =>
      ["active", "released", "expired", "completed", "failed"].contains s),
    ("workflow_hash", textField matchesSha256),
    ("worker_reference", textField matchesSha256),
    ("receipt_reference", textField fun s =>
      (utf8 s).all idChar && decide (8 ≤ (utf8 s).length ∧ (utf8 s).length ≤ 80)),
    ("checkpoint_hash", textField matchesSha256),
    ("audit_sequence", intFrom 1),
    ("version", intFrom 1),
    ("fencing_token", intFrom 0),
    ("lease_version", intFrom 0),
    ("attempt_count", intField 0 3),
    ("count", intField 0 1000000),
    ("event_count", intField 0 1000000),
    ("step_count", intField 0 64),
    ("checkpoint_count", intField 0 64),
    ("activity_attempts", intField 0 64),
    ("retries", intField 0 64),
    ("session_recoveries", intField 0 8),
    ("replans", intField 0 8),
    ("route_decisions", intField 0 1000000),
    ("dom_observations", intField 0 1000000),
    ("images", intField 0 1000000),
    ("duration_ms", intField 0 3600000),
    ("latency_ms", intField 0 3600000),
    ("model_calls", intField 0 1000000),
    ("input_tokens", intField 0 1000000000),
    ("output_tokens", intField 0 1000000000),
    ("fake_cost_microusd", intField 0 1000000000),
    ("real_cost_microusd", fun v => match v with
      | .null => true
      | v => zeroField v),
    ("step_id", textField matchesStep),
    ("completed_step_ids", stepsField),
    ("sensitive_fields_present", zeroField)]

def validTraceField (f : String × Json) : Bool :=
  match traceFields.find? fun g => g.1 = f.1 with
  | none => false
  | some g => g.2 f.2

def notNull : Json → Bool
  | .null => false
  | _ => true

/-- A validated value: a literal is kept as the schema writes it. -/
def literalValue (key : String) : Json → Json
  | .num 0 => if key = "sensitive_fields_present" then .bool false else .num 0
  | .bool false => if key = "real_cost_microusd" then .num 0 else .bool false
  | value => value

/-- The fields that `TraceAttributes.model_validate` keeps. -/
def validatedFields (attributes : List (String × Json)) : List (String × Json) :=
  attributes.map fun f => (f.1, literalValue f.1 f.2)

/-- `TraceAttributes.model_validate(...).model_dump(mode="json", exclude_none=True)`: the three
fields with a default that is not `None` are always present. -/
def dumpedAttributes (attributes : List (String × Json)) : List (String × Json) :=
  let given := (validatedFields attributes).filter fun f => notNull f.2
  let missing := [("schema_version", Json.str "w13-trace-attributes/1.0"),
    ("completed_step_ids", .arr []), ("sensitive_fields_present", .bool false)].filter
      fun f => !given.any fun g => g.1 = f.1
  given ++ missing

def forbiddenAttributeKeys : List String :=
  ["token", "access_token", "credential", "nonce", "claims", "authorization_code", "cookie",
    "password", "private_key", "name", "email", "username", "parameters", "task", "page",
    "dom", "image", "ocr", "model_content", "dsn", "secret", "machine_path"]

def forbiddenText : List String :=
  ["bearer ", "access_token", "authorization_code", "credential", "nonce", "cookie",
    "password", "private_key", "@", "postgresql://", "sqlite+pysqlite://", "%systemdrive%",
    ":\\"]

/-- `_safe_attributes`. -/
def safeAttributes (attributes : List (String × Json)) : Except Failure Json :=
  if attributes.all validTraceField then
    let fields := dumpedAttributes attributes
    if fields.any fun f => forbiddenAttributeKeys.contains f.1 then
      .error (.observabilityPayloadRejected "trace attributes contain a forbidden key")
    else if forbiddenText.any fun marker =>
        containsText (utf8 marker) (lowerBytes (canonicalBytes (.obj fields))) then
      .error (.observabilityPayloadRejected "trace attributes contain forbidden material")
    else if canonicalLength (.obj fields) > 2048 then
      .error (.observabilityPayloadRejected "trace attributes exceed the W13 byte bound")
    else .ok (.obj fields)
  else .error (.observabilityPayloadRejected "trace attributes are outside the W13 schema")

/-! ## Trace events -/

/-- `trace_id_for_run`. -/
def traceIdForRun (organizationId : OrganizationId) (runId : RunId) : String :=
  (stableHash (.obj [("schema_version", .str "w13-trace-id/1.0"),
    ("organization_id", .id organizationId),
    ("run_id", .id runId)])).take 32

/-- `_span_id`. -/
def spanId (organizationId : OrganizationId) (runId : RunId) (eventSequence : Nat)
    (phase : TracePhase) (reason : TraceReason) : String :=
  (stableHash (.obj [("schema_version", .str "w13-span-id/1.0"),
    ("organization_id", .id organizationId),
    ("run_id", .id runId),
    ("event_sequence", .num eventSequence),
    ("phase", .str phase.value),
    ("reason", .str reason.value)])).take 16

/-- The record that follows the events of its run, with its hash over all other fields. -/
def traceRecord (events : List ObservabilityEvent) (eventId : Id .obs)
    (organizationId : OrganizationId) (runId : RunId) (entry : TraceEntry)
    (attributes : Json) (now : Time) : ObservabilityEvent :=
  let eventSequence := lastEventSequence events + 1
  let parentSpanId :=
    if eventSequence > 1 then
      (events.find? fun e => e.eventSequence = 1).map (·.spanId)
    else none
  let span := spanId organizationId runId eventSequence entry.phase entry.reason
  let attributesHash := stableHash attributes
  let eventFields : Json :=
    .obj [("schema_version", .str "w13-observability-event/1.0"),
      ("event_id", .id eventId),
      ("organization_id", .id organizationId),
      ("run_id", .id runId),
      ("event_sequence", .num eventSequence),
      ("trace_id", .str (traceIdForRun organizationId runId)),
      ("span_id", .str span),
      ("parent_span_id", .ofOption .str parentSpanId),
      ("phase", .str entry.phase.value),
      ("status", .str entry.status.value),
      ("failure_category", .str entry.failureCategory.value),
      ("reason", .str entry.reason.value),
      ("attributes", attributes),
      ("attributes_hash", .digest attributesHash),
      ("observed_at", .time now)]
  { eventId := eventId
    organizationId := organizationId
    runId := runId
    eventSequence := eventSequence
    traceId := traceIdForRun organizationId runId
    spanId := span
    parentSpanId := parentSpanId
    phase := entry.phase
    status := entry.status
    failureCategory := entry.failureCategory
    reason := entry.reason
    attributesJson := attributes
    attributesHash := attributesHash
    eventHash := stableHash eventFields
    observedAt := now }

/-- `append_observability_event`. -/
def appendObservabilityEvent (db : Db) (organizationId : OrganizationId) (runId : RunId)
    (entry : TraceEntry) (now : Time) : Except Failure Db :=
  if (db.runs.one? fun r => r.organizationId = organizationId ∧ r.runId = runId).isNone then
    .error (.observabilityPayloadRejected "trace event must reference an existing run")
  else
    let events := runTraces db organizationId runId
    if lastEventSequence events + 1 > 256 then
      .error (.observabilityPayloadRejected "trace event sequence exceeds the W13 bound")
    else do
      let attributes ← safeAttributes entry.attributes
      let event := traceRecord events ⟨db.traces.length⟩ organizationId runId entry attributes now
      .ok { db with traces := db.traces ++ [event] }

theorem appendObservabilityEvent_ok {db after : Db} {organizationId : OrganizationId}
    {runId : RunId} {entry : TraceEntry} {now : Time}
    (h : appendObservabilityEvent db organizationId runId entry now = .ok after) :
    ∃ traces, after = { db with traces := traces } := by
  unfold appendObservabilityEvent at h
  split at h
  · cases h
  · dsimp only at h
    split at h
    · cases h
    · rcases ok_of_bind h with ⟨attributes, _, hrest⟩
      cases hrest
      exact ⟨_, rfl⟩

omit [Sha256] in
theorem safeAttributes_avoids (attributes : List (String × Json)) :
    Avoids .integrityError (safeAttributes attributes) := by
  unfold safeAttributes
  split
  · dsimp only
    split
    · exact Avoids.error (by simp)
    · split
      · exact Avoids.error (by simp)
      · split
        · exact Avoids.error (by simp)
        · exact Avoids.ok _ _
  · exact Avoids.error (by simp)

theorem appendObservabilityEvent_avoids (db : Db) (organizationId : OrganizationId)
    (runId : RunId) (entry : TraceEntry) (now : Time) :
    Avoids .integrityError (appendObservabilityEvent db organizationId runId entry now) := by
  unfold appendObservabilityEvent
  split
  · exact Avoids.error (by simp)
  · dsimp only
    split
    · exact Avoids.error (by simp)
    · apply Avoids.bind (safeAttributes_avoids _)
      intro attributes _
      exact Avoids.ok _ _

end FlowPilot.Control
