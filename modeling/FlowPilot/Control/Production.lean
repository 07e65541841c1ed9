import FlowPilot.Control.Approval

/-!
# Durable production admission

`production.py` of the Control API.  The reads that an operation takes without a lock (the
idempotency check, the risk facts, the partitions that there are, the run) are separate
definitions and reach the locked part as arguments.
-/

open FlowPilot.Lib

namespace FlowPilot.Control

/-! ## Policy -/

def queueTotalCapacity : Int := 64

def queueOrganizationCapacity : Int := 32

def queueTtl : Time := 300 * second

def retryAfterMax : Nat := 30

def microtoken : Nat := 1000000

structure TokenBucketPolicy where
  actorRate : Nat
  actorBurst : Nat
  organizationRate : Nat
  organizationBurst : Nat

def bucketPolicy : RouteClass → TokenBucketPolicy
  | .submit => ⟨5, 10, 50, 100⟩
  | .read => ⟨10, 20, 200, 400⟩
  | .mutate => ⟨2, 4, 25, 50⟩

/-- The processes and categories of the admitted tasks. -/
def taskBinding : TaskId → Process × Category
  | .joiner001v1 | .joiner001v2 | .joiner002v1 | .joiner002v2 => (.joiner, .joiner)
  | .mover001v1 | .mover001v2 => (.mover, .mover)
  | .leaver001v1 | .leaver001v2 => (.leaver, .leaver)

/-- `^[a-z][a-z0-9_]{1,63}$`. -/
def matchesAction (s : String) : Bool :=
  matchesPattern isLower (fun b => isLower b || isDigit b || Nat.beq b 95) 1 63 s

def boundedParameters (parameters : List (String × Json)) : Prop :=
  parameters.length ≤ 12 ∧ canonicalLength (.obj parameters) ≤ 4096

instance (parameters : List (String × Json)) : Decidable (boundedParameters parameters) := by
  unfold boundedParameters
  infer_instance

/-- A validated `ProductionRunCreate`. -/
structure RunCreate where
  taskId : TaskId
  process : Process
  category : Category
  actionType : String
  parameters : List (String × Json)
  action_ok : matchesAction actionType = true
  parameters_ok : boundedParameters parameters
  binding_ok : taskBinding taskId = (process, category)

def RunCreate.json (payload : RunCreate) : Json :=
  .obj [("schema_version", .str "w12-production-run-create/1.0"),
    ("task_id", .str payload.taskId.value),
    ("process", .str payload.process.value),
    ("category", .str payload.category.value),
    ("action_type", .str payload.actionType),
    ("parameters", .obj payload.parameters)]

variable [Sha256]

/-! ## Rate limits -/

/-- `_ensure_bucket`: the row is inserted full unless it exists, and then read locked. -/
def ensureBucket (db : Db) (organizationId : OrganizationId) (bucketKeyHash : Digest)
    (scopeKind : ScopeKind) (routeClass : RouteClass) (burst : Nat) (now : Time) :
    Except Failure (RateLimitBucket × Db) :=
  let fresh : RateLimitBucket :=
    { organizationId := organizationId
      bucketKeyHash := bucketKeyHash
      scopeKind := scopeKind
      routeClass := routeClass
      tokensMicro := burst * microtoken
      lastRefillAt := now
      status := .active
      version := 1
      createdAt := now
      updatedAt := now }
  let buckets := (db.buckets.insert? fresh).getD db.buckets
  match buckets.one? fun b => b.organizationId = organizationId ∧
      b.bucketKeyHash = bucketKeyHash ∧ b.routeClass = routeClass ∧
      b.scopeKind = scopeKind ∧ b.status = .active with
  | none => .error (.backpressureExceeded 1)
  | some bucket => .ok (bucket, { db with buckets := buckets })

/-- `_refill`. -/
def refill (bucket : RateLimitBucket) (rate burst : Nat) (now : Time) : Nat :=
  min (burst * microtoken) (bucket.tokensMicro + (now - bucket.lastRefillAt) * rate)

def writeBucket (db : Db) (bucket : RateLimitBucket) (tokens : Nat) (now : Time) : Db :=
  { db with
    buckets := db.buckets.update
      (fun b => b.organizationId = bucket.organizationId ∧
        b.bucketKeyHash = bucket.bucketKeyHash ∧ b.routeClass = bucket.routeClass)
      fun b => { b with
        tokensMicro := tokens, lastRefillAt := now, updatedAt := now, version := b.version + 1 } }

/-- The seconds until a deficit is refilled, rounded up. -/
def refillWait (deficit rate : Nat) : Nat :=
  (deficit + rate * microtoken - 1) / (rate * microtoken)

/-- `consume_rate_limit`: the wait when a token is missing, and the buckets in both cases. -/
def consumeRateLimit (db : Db) (actor : ActorContext) (routeClass : RouteClass) (now : Time) :
    Except Failure (Option Nat × Db) := do
  let limits := bucketPolicy routeClass
  let (actorBucket, db) ← ensureBucket db actor.organizationId
    (stableHashText actor.userId.text) .actor routeClass limits.actorBurst now
  let (organizationBucket, db) ← ensureBucket db actor.organizationId
    (stableHashText actor.organizationId.text) .organization routeClass
    limits.organizationBurst now
  let actorTokens := refill actorBucket limits.actorRate limits.actorBurst now
  let organizationTokens :=
    refill organizationBucket limits.organizationRate limits.organizationBurst now
  let actorDeficit := microtoken - actorTokens
  let organizationDeficit := microtoken - organizationTokens
  if actorDeficit ≠ 0 ∨ organizationDeficit ≠ 0 then
    let wait := max (refillWait actorDeficit limits.actorRate)
      (refillWait organizationDeficit limits.organizationRate)
    let db := writeBucket db actorBucket actorTokens now
    let db := writeBucket db organizationBucket organizationTokens now
    .ok (some (min retryAfterMax (max 1 wait)), db)
  else
    let db := writeBucket db actorBucket (actorTokens - microtoken) now
    let db := writeBucket db organizationBucket (organizationTokens - microtoken) now
    .ok (none, db)

/-- `_consume_rate_limit_or_audit`: a rate-limited call is audited and committed, and the reply
is the exception to raise. -/
def consumeRateLimitOrAudit (db : Db) (actor : ActorContext) (routeClass : RouteClass)
    (subjectReference : String) (now : Time) : Except Failure (Option Failure × Db) := do
  let (limited, db) ← consumeRateLimit db actor routeClass now
  match limited with
  | none => .ok (none, db)
  | some retryAfter => do
    let (_, db) ← appendAuditEvent db actor.organizationId .rateLimited
      actor.authorizationHash subjectReference
      (w12Payload [("reason", .str "rate_limited"),
        ("http_status", .num 429),
        ("retry_after", .num retryAfter)]) now
    .ok (some (.rateLimitExceeded retryAfter), db)

/-! ## Capacity -/

/-- The row that `_ensure_partition` inserts for an organization without one. -/
def emptyPartition (organizationId : OrganizationId) (now : Time) : SchedulerPartition where
  organizationId := organizationId
  partitionId := "prt_" ++ (stableHashText organizationId.text).take 32
  readyCount := 0
  status := .empty
  cursorVersion := 1
  lastSelectedAt := none
  updatedAt := now

/-- The insert of `_ensure_partition`, `ON CONFLICT DO NOTHING`. -/
def ensurePartition (db : Db) (organizationId : OrganizationId) (now : Time) : Db :=
  { db with
    partitions := (db.partitions.insert? (emptyPartition organizationId now)).getD db.partitions }

/-- The partitions that a statement sees which begins at `db`. -/
def partitionKeys (db : Db) : List OrganizationId := db.partitions.rows.map (·.organizationId)

/-- The locking select of `_lock_capacity`, each row as it is under its lock: nothing holds the
object of the unlocked load before it, so the session has no older attributes to return.  A
partition that another transaction inserted after the statement began is not `visible`; the
organization's own was inserted before. -/
def lockPartitions (db : Db) (organizationId : OrganizationId) (visible : List OrganizationId) :
    List SchedulerPartition :=
  db.partitions.rows.filter fun p =>
    decide (p.organizationId = organizationId ∨ p.organizationId ∈ visible)

/-- The checks of `_lock_capacity`; `false` is `BackpressureExceeded`. -/
def capacityLeft (db : Db) (organizationId : OrganizationId) (visible : List OrganizationId) :
    Bool :=
  let partitions := lockPartitions db organizationId visible
  match partitions.find? fun p => decide (p.organizationId = organizationId) with
  | none => false
  | some current =>
    decide ((partitions.map (·.readyCount)).sum < queueTotalCapacity) &&
      decide (current.readyCount < queueOrganizationCapacity)

/-- The flush of `partition.ready_count += 1` and the other attributes of the locked row. -/
def addReady (db : Db) (organizationId : OrganizationId) (now : Time) : Except Failure Db :=
  db.updatePartition organizationId fun p =>
    { p with
      readyCount := p.readyCount + 1
      status := .ready
      cursorVersion := p.cursorVersion + 1
      updatedAt := now }

/-- `_new_outbox`. -/
def newOutbox (outboxId : OutboxId) (organizationId : OrganizationId) (runId : RunId)
    (now : Time) : DispatchOutbox where
  outboxId := outboxId
  organizationId := organizationId
  runId := runId
  status := .ready
  attemptCount := 0
  fencingToken := 0
  leaseOwnerHash := none
  leaseVersion := 0
  leasedAt := none
  leaseExpiresAt := none
  heartbeatAt := none
  availableAt := now
  expiresAt := now + queueTtl
  createdAt := now
  updatedAt := now

/-! ## Admission -/

/-- `_existing_idempotent_run`. -/
def existingIdempotentRun (db : Db) (actor : ActorContext) (keyHash bodyHash : Digest) :
    Except Failure (Option ProductionRun) :=
  match db.idempotency.one? fun r => r.organizationId = actor.organizationId ∧
      r.actorUserId = actor.userId ∧ r.keyHash = keyHash with
  | none => .ok none
  | some record =>
    if record.bodyHash ≠ bodyHash then .error (.idempotencyConflict "idempotency_mismatch")
    else
      match db.runs.one? fun r => r.organizationId = actor.organizationId ∧
          r.runId = record.runId with
      | none => .error (.productionStateConflict "idempotency_run_missing")
      | some run => .ok (some run)

/-- `_workflow_identity`. -/
def workflowIdentity (organizationId : OrganizationId) (runId : RunId) : String × Digest :=
  let workflowHash := stableHash (.obj
    [("schema_version", .str "w12-workflow-identity/1.0"),
      ("organization_id", .id organizationId),
      ("run_id", .id runId)])
  ("w12-" ++ workflowHash.take 48, workflowHash)

def trustedTaskHash (taskId : TaskId) (process : Process) (category : Category) : Digest :=
  stableHash (.obj
    [("schema_version", .str "w12-trusted-task-reference/1.0"),
      ("task_id", .str taskId.value),
      ("process", .str process.value),
      ("category", .str category.value)])

/-- The run that an admission inserts. -/
def newRun (runId : RunId) (actor : ActorContext) (organizationId : OrganizationId)
    (payload : RunCreate) (evaluation : RiskEvaluation) (requestId : Option RequestId)
    (status : RunStatus) (keyHash bodyHash : Digest) (auditSequence : Nat) (now : Time) :
    ProductionRun where
  runId := runId
  organizationId := organizationId
  requesterUserId := actor.userId
  executorUserId := actor.userId
  taskId := payload.taskId
  process := payload.process
  category := payload.category
  approvalRequestId := requestId
  grantId := none
  executionId := none
  actionType := payload.actionType
  parameterHash := evaluation.parameterHash
  authorizationHash := actor.authorizationHash
  approvalSetHash := none
  payloadReference := "taskref_" ++ (stableHashText payload.taskId.value).take 32
  payloadHash := trustedTaskHash payload.taskId payload.process payload.category
  status := status
  version := 1
  idempotencyHash := keyHash
  bodyHash := bodyHash
  workflowId := (workflowIdentity organizationId runId).1
  workflowHash := (workflowIdentity organizationId runId).2
  leaseOwnerHash := none
  fencingToken := 0
  leaseExpiresAt := none
  acceptedAt := now
  queuedAt := if status = .queued then some now else none
  startedAt := none
  finishedAt := none
  terminalReason := none
  receiptReference := none
  auditSequence := auditSequence
  createdAt := now
  updatedAt := now

/-- Everything an admission knows when it reaches its locked part. -/
structure Admission where
  actor : ActorContext
  organizationId : OrganizationId
  payload : RunCreate
  keyHash : Digest
  bodyHash : Digest
  evaluation : RiskEvaluation
  now : Time

def Admission.waits (a : Admission) : Bool :=
  decide (a.evaluation.riskLevel = .L2 ∨ a.evaluation.riskLevel = .L3)

def Admission.riskPayload (a : Admission) : List (String × Json) :=
  riskFields a.payload.actionType a.evaluation

/-- The request row of a run that waits for approval. -/
def admitRequest (a : Admission) (db : Db) : Except Failure (Option RequestId × Db) :=
  if a.waits then do
    let requestId := db.freshRequestId
    let (sequence, db) ← appendAuditEvent db a.organizationId .approvalRequested
      a.actor.authorizationHash requestId.text
      (w11Payload (a.riskPayload ++
        [("request_id", .id requestId),
          ("request_status", .str "pending"),
          ("version", .num 1)])) a.now
    let db ← db.insertRequest (newRequest requestId a.actor a.organizationId
      a.payload.taskId.value "production_run" a.payload.actionType a.evaluation sequence a.now)
    .ok (some requestId, db)
  else .ok (none, db)

/-- The outbox row of a run that is queued at once, with its trace event. -/
def admitOutbox (a : Admission) (run : ProductionRun) (db : Db) :
    Except Failure (Option DispatchOutbox × Db) :=
  if a.waits then .ok (none, db)
  else do
    let outbox := newOutbox db.freshOutboxId a.organizationId run.runId a.now
    let db ← db.insertOutbox outbox
    let db ← addReady db a.organizationId a.now
    .ok (some outbox, db)

def outboxReadyEntry (status : RunStatus) (outbox : DispatchOutbox)
    (auditSequence version : Nat) : TraceEntry where
  phase := .outbox
  status := .queued
  reason := .outboxReady
  attributes :=
    [("run_status", .str status.value),
      ("outbox_id", .id outbox.outboxId),
      ("outbox_status", .str outbox.status.value),
      ("fencing_token", .num outbox.fencingToken),
      ("lease_version", .num outbox.leaseVersion),
      ("audit_sequence", .num auditSequence),
      ("version", .num version),
      ("sensitive_fields_present", .bool false)]

/-- The inserts of an admission.  Both flushes raise a violated constraint as it is: the handler
around the final commit no longer sees it. -/
def admitInserts (a : Admission) (db : Db) :
    Except Failure (ProductionRun × Db) := do
  let (_, db) ← appendAuditEvent db a.organizationId .riskClassified
    a.actor.authorizationHash a.payload.actionType (w11Payload a.riskPayload) a.now
  let runId := db.freshRunId
  let (requestId, db) ← admitRequest a db
  let status : RunStatus := if a.waits then .waitingApproval else .queued
  let (sequence, db) ← appendAuditEvent db a.organizationId
    (if a.waits then .runWaitingApproval else .runQueued) a.actor.authorizationHash runId.text
    (w12Payload [("run_id", .id runId),
      ("request_id", .ofOption .id requestId),
      ("run_status", .str status.value),
      ("action_type", .str a.payload.actionType),
      ("parameter_hash", .digest a.evaluation.parameterHash),
      ("version", .num 1)]) a.now
  let run := newRun runId a.actor a.organizationId a.payload a.evaluation requestId status
    a.keyHash a.bodyHash sequence a.now
  let db ← db.insertRun run
  let db ← db.insertIdempotency
    { organizationId := a.organizationId
      actorUserId := a.actor.userId
      keyHash := a.keyHash
      bodyHash := a.bodyHash
      runId := runId
      createdAt := a.now }
  let (outbox, db) ← admitOutbox a run db
  let db ← appendObservabilityEvent db a.organizationId runId
    { phase := .admission
      status := if a.waits then .waiting else .queued
      reason := if a.waits then .admittedWaitingApproval else .admittedQueued
      attributes :=
        [("run_status", .str status.value),
          ("approval_request_id", .ofOption .id requestId),
          ("authorization_hash", .digest a.actor.authorizationHash),
          ("workflow_hash", .digest run.workflowHash),
          ("audit_sequence", .num sequence),
          ("version", .num 1),
          ("sensitive_fields_present", .bool false)] } a.now
  match outbox with
  | none => .ok (run, db)
  | some outbox => do
    let db ← appendObservabilityEvent db a.organizationId runId
      (outboxReadyEntry status outbox sequence 1) a.now
    .ok (run, db)

/-- `admit_production_run` after the idempotency check and the risk evaluation. -/
def admitLocked (a : Admission) (visible : List OrganizationId) (plane : Plane) :
    Except Failure (Outcome ProductionRun) :=
  if a.evaluation.riskLevel = .L4 then do
    let (_, db) ← appendAuditEvent plane.db a.organizationId .admissionRejected
      a.actor.authorizationHash a.payload.actionType
      (w12Payload (a.riskPayload ++
        [("reason", .str "risk_denied"), ("http_status", .num 403)])) a.now
    .ok (.error .riskDenied, { plane with db := db })
  else do
    let (limited, db) ← consumeRateLimitOrAudit plane.db a.actor .submit a.payload.actionType
      a.now
    match limited with
    | some failure => .ok (.error failure, { plane with db := db })
    | none =>
      if a.waits then do
        let (run, db) ← admitInserts a db
        .ok (.ok run, { plane with db := db })
      else
        let db := ensurePartition db a.organizationId a.now
        if capacityLeft db a.organizationId visible then do
          let (run, db) ← admitInserts a db
          .ok (.ok run, { plane with db := db })
        else do
          let (_, db) ← appendAuditEvent db a.organizationId .riskClassified
            a.actor.authorizationHash a.payload.actionType (w11Payload a.riskPayload) a.now
          let (_, db) ← appendAuditEvent db a.organizationId .backpressureRejected
            a.actor.authorizationHash a.payload.actionType
            (w12Payload [("reason", .str "backpressure"),
              ("http_status", .num 503),
              ("retry_after", .num 1)]) a.now
          .ok (.error (.backpressureExceeded 1), { plane with db := db })

/-- The arguments and the evaluation that an admission goes on with. -/
def admission (db : Db) (actor : ActorContext) (organizationId : OrganizationId)
    (idempotencyKey : String) (payload : RunCreate) (now : Time) :
    Except Failure Admission := do
  let evaluation ← evaluateProductionRisk db organizationId payload.actionType
    payload.parameters
  .ok { actor := actor
        organizationId := organizationId
        payload := payload
        keyHash := stableHashText idempotencyKey
        bodyHash := stableHash payload.json
        evaluation := evaluation
        now := now }

/-- The unlocked reads of `admit_production_run`. -/
structure AdmitReads where
  existing : Except Failure (Option ProductionRun)
  evaluated : Except Failure Admission
  visible : List OrganizationId

/-- `admit_production_run` on its unlocked reads. -/
def admitProductionRun (actor : ActorContext) (organizationId : OrganizationId)
    (reads : AdmitReads) (plane : Plane) : Except Failure (Outcome ProductionRun) :=
  if actor.organizationId ≠ organizationId then .error .resourceNotFound
  else do
    match ← reads.existing with
    | some run => .ok (.ok run, plane)
    | none => do
      let a ← reads.evaluated
      admitLocked a reads.visible plane

/-- All the reads of `admit_production_run` at one state. -/
def admitReads (actor : ActorContext) (organizationId : OrganizationId)
    (idempotencyKey : String) (payload : RunCreate) (now : Time) (plane : Plane) :
    AdmitReads where
  existing := existingIdempotentRun plane.db actor (stableHashText idempotencyKey)
    (stableHash payload.json)
  evaluated := admission plane.db actor organizationId idempotencyKey payload now
  visible := partitionKeys plane.db

/-! ## Claims -/

/-- A validated `ProductionRunClaim`. -/
structure RunClaim where
  actionType : String
  parameters : List (String × Json)
  action_ok : matchesAction actionType = true
  parameters_ok : boundedParameters parameters

/-- `on_claim`: the waiting run is queued under the claimed grant. -/
def queueClaimedRun (actor : ActorContext) (organizationId : OrganizationId) (runId : RunId)
    (now : Time) : OnClaim := fun request grant claim db =>
  match db.runs.one? fun r => r.organizationId = organizationId ∧ r.runId = runId ∧
      r.status = .waitingApproval ∧ r.approvalRequestId = some request.requestId ∧
      r.parameterHash = request.parameterHash ∧ r.actionType = request.actionType with
  | none => .error (.productionStateConflict "production_claim_rejected")
  | some locked => do
    let version := locked.version + 1
    let outbox := newOutbox db.freshOutboxId organizationId runId now
    let (sequence, db) ← appendAuditEvent db organizationId .runQueued
      actor.authorizationHash runId.text
      (w12Payload [("run_id", .id runId),
        ("request_id", .id request.requestId),
        ("grant_id", .id grant.grantId),
        ("execution_id", .id claim.executionId),
        ("run_status", .str "queued"),
        ("parameter_hash", .digest request.parameterHash),
        ("version", .num version)]) now
    let db :=
      { db with
        runs := db.runs.update (fun r => r.runId = runId) fun r =>
          { r with
            grantId := some grant.grantId
            executionId := some claim.executionId
            authorizationHash := claim.authorizationHash
            approvalSetHash := some grant.approvalSetHash
            status := .queued
            version := version
            queuedAt := some now
            updatedAt := now
            auditSequence := sequence } }
    let db ← db.insertOutbox outbox
    let db ← addReady db organizationId now
    let db ← appendObservabilityEvent db organizationId runId
      { phase := .approval
        status := .queued
        reason := .approvalHandoff
        attributes :=
          [("run_status", .str "queued"),
            ("approval_request_id", .id request.requestId),
            ("grant_id", .id grant.grantId),
            ("execution_id", .id claim.executionId),
            ("authorization_hash", .digest claim.authorizationHash),
            ("approval_set_hash", .digest grant.approvalSetHash),
            ("audit_sequence", .num sequence),
            ("version", .num version),
            ("sensitive_fields_present", .bool false)] } now
    appendObservabilityEvent db organizationId runId
      (outboxReadyEntry .queued outbox sequence version) now

/-- The unlocked load of the run that waits for approval. -/
def loadWaitingRun (db : Db) (organizationId : OrganizationId) (runId : RunId) :
    Option ProductionRun :=
  db.runs.one? fun r => r.organizationId = organizationId ∧ r.runId = runId ∧
    r.status = .waitingApproval

/-- The unlocked reads of `claim_production_run`. -/
structure RunClaimReads where
  run : Option ProductionRun
  visible : List OrganizationId
  rows : ClaimRows
  checks : Except Failure Unit

/-- What the claim of a waiting run asks `claim_grant` for. -/
def runGrantClaim (run : ProductionRun) (payload : RunClaim) : GrantClaim :=
  ⟨run.taskId.value, "production_run", payload.actionType, payload.parameters⟩

/-- `claim_production_run` on its unlocked reads. -/
def claimProductionRun (actor : ActorContext) (organizationId : OrganizationId)
    (runId : RunId) (expectedVersion : Nat) (now : Time) (reads : RunClaimReads)
    (plane : Plane) : Except Failure (Outcome ProductionRun) :=
  if actor.organizationId ≠ organizationId then .error .resourceNotFound
  else do
    let (limited, db) ← consumeRateLimitOrAudit plane.db actor .mutate runId.text now
    match limited with
    | some failure => .ok (.error failure, { plane with db := db })
    | none =>
      match reads.run with
      | none => .error (.productionStateConflict "production_claim_rejected")
      | some run =>
        match run.approvalRequestId with
        | none => .error (.productionStateConflict "production_claim_rejected")
        | some requestId =>
          if run.version ≠ expectedVersion then .error .preconditionFailed
          else
            let db := ensurePartition db organizationId now
            if ¬ capacityLeft db organizationId reads.visible then do
              let (_, db) ← appendAuditEvent db organizationId .backpressureRejected
                actor.authorizationHash runId.text
                (w12Payload [("run_id", .id runId),
                  ("reason", .str "backpressure"),
                  ("http_status", .num 503),
                  ("retry_after", .num 1)]) now
              .ok (.error (.backpressureExceeded 1), { plane with db := db })
            else do
              let (claimed, after) ← claimGrant actor organizationId requestId now
                (some (queueClaimedRun actor organizationId runId now))
                reads.rows reads.checks plane.db { plane with db := db }
              match claimed with
              | .error failure => .ok (.error failure, after)
              | .ok _ =>
                match after.db.runs.one? fun r =>
                    r.organizationId = organizationId ∧ r.runId = runId with
                | none => .ok (.error (.productionStateConflict "production_claim_rejected"),
                    after)
                | some refreshed => .ok (.ok refreshed, after)

/-- The rows that `claim_grant` loads for the run. -/
def runClaimRows (db : Db) (organizationId : OrganizationId) (run : Option ProductionRun) :
    ClaimRows :=
  match run.bind (·.approvalRequestId) with
  | none => ⟨none, none, false⟩
  | some requestId => claimRows db organizationId requestId

/-- The checks of `claim_grant` on those rows. -/
def runClaimChecks (organizationId : OrganizationId) (payload : RunClaim) (now : Time)
    (run : Option ProductionRun) (rows : ClaimRows) (plane : Plane) : Except Failure Unit :=
  match run with
  | none => .ok ()
  | some run => rowChecks organizationId (runGrantClaim run payload) now rows plane

/-- All the reads of `claim_production_run` at one state. -/
def runClaimReads (organizationId : OrganizationId) (runId : RunId) (payload : RunClaim)
    (now : Time) (plane : Plane) : RunClaimReads :=
  let run := loadWaitingRun plane.db organizationId runId
  let rows := runClaimRows plane.db organizationId run
  { run := run
    visible := partitionKeys plane.db
    rows := rows
    checks := runClaimChecks organizationId payload now run rows plane }

/-! ## Cancellation -/

/-- The unlocked load of `cancel_production_run`. -/
def loadRun (db : Db) (organizationId : OrganizationId) (runId : RunId) :
    Option ProductionRun :=
  db.runs.one? fun r => r.organizationId = organizationId ∧ r.runId = runId

/-- The request of a cancelled run is cancelled while it is open or claimed. -/
def cancelRequest (actor : ActorContext) (organizationId : OrganizationId)
    (requestId : RequestId) (now : Time) (db : Db) : Except Failure Db :=
  match db.requests.one? fun r =>
      r.organizationId = organizationId ∧ r.requestId = requestId with
  | none => .ok db
  | some request =>
    if request.status = .pending ∨ request.status = .approved ∨ request.status = .claimed then do
      let (sequence, db) ← appendAuditEvent db organizationId .requestCancelled
        actor.authorizationHash requestId.text
        (w11Payload [("request_id", .id requestId),
          ("request_status", .str "cancelled"),
          ("reason", .str "requester_cancelled"),
          ("version", .num (request.version + 1))]) now
      .ok (writeRequest db
        { request with
          status := .cancelled
          closedReason := some .requesterCancelled
          version := request.version + 1
          updatedAt := now
          auditSequence := sequence })
    else .ok db

/-- The grant of a cancelled run is revoked, or fails when it was claimed. -/
def cancelGrant (actor : ActorContext) (organizationId : OrganizationId)
    (requestId : RequestId) (now : Time) (db : Db) : Except Failure (Option GrantId × Db) :=
  match db.grants.one? fun g =>
      g.organizationId = organizationId ∧ g.requestId = requestId with
  | none => .ok (none, db)
  | some grant =>
    if grant.status = .issued ∨ grant.status = .claimed then do
      let wasClaimed := decide (grant.status = .claimed)
      let status : GrantStatus := if wasClaimed then .failed else .revoked
      let db :=
        { db with
          grants := db.grants.update (fun g => g.grantId = grant.grantId) fun g =>
            { g with status := status, version := g.version + 1, updatedAt := now } }
      if wasClaimed then
        let subject := match grant.executionId with
          | some executionId => executionId.text
          | none => grant.grantId.text
        let (_, db) ← appendAuditEvent db organizationId .executionFailed
          actor.authorizationHash subject
          (w11Payload [("request_id", .id requestId),
            ("grant_id", .id grant.grantId),
            ("grant_status", .str status.value),
            ("execution_id", .ofOption .id grant.executionId),
            ("reason", .str "requester_cancelled")]) now
        .ok (some grant.grantId, db)
      else .ok (some grant.grantId, db)
    else .ok (none, db)

/-- The outbox row of a cancelled run, when there is one, leaves the queue. -/
def cancelOutbox (organizationId : OrganizationId) (outbox : Option DispatchOutbox)
    (now : Time) (db : Db) : Except Failure Db :=
  match outbox with
  | none => .ok db
  | some outbox => do
    let db ← db.updateOutbox (fun o => o.outboxId = outbox.outboxId) fun o =>
      { o with status := .cancelled, updatedAt := now }
    db.updatePartition organizationId fun p =>
      { p with
        readyCount := max 0 (p.readyCount - 1)
        status := if max 0 (p.readyCount - 1) = 0 then .empty else .ready
        cursorVersion := p.cursorVersion + 1
        updatedAt := now }

/-- The approval of a cancelled run, when it has one, ends with it. -/
def cancelApproval (actor : ActorContext) (organizationId : OrganizationId)
    (requestId : Option RequestId) (now : Time) (db : Db) :
    Except Failure (Option GrantId × Db) :=
  match requestId with
  | none => .ok (none, db)
  | some requestId => do
    let db ← cancelRequest actor organizationId requestId now db
    cancelGrant actor organizationId requestId now db

/-- `cancel_production_run` from the locked `run` on. -/
def cancelLocked (actor : ActorContext) (organizationId : OrganizationId)
    (run : ProductionRun) (outbox : Option DispatchOutbox) (now : Time) (plane : Plane)
    (db : Db) : Except Failure (Outcome ProductionRun) := do
  let db ← cancelOutbox organizationId outbox now db
  let (grantId, db) ← cancelApproval actor organizationId run.approvalRequestId now db
  let (sequence, db) ← appendAuditEvent db organizationId .runCancelled
    actor.authorizationHash run.runId.text
    (w12Payload [("run_id", .id run.runId),
      ("run_status", .str "cancelled"),
      ("reason", .str "cancelled_by_actor"),
      ("version", .num (run.version + 1))]) now
  let cancelled := { run with
    status := RunStatus.cancelled
    version := run.version + 1
    finishedAt := some now
    terminalReason := some .cancelledByActor
    updatedAt := now
    auditSequence := sequence }
  let db :=
    { db with
      runs := db.runs.update (fun r => r.runId = run.runId) fun r =>
        { r with
          status := cancelled.status
          version := cancelled.version
          finishedAt := cancelled.finishedAt
          terminalReason := cancelled.terminalReason
          updatedAt := cancelled.updatedAt
          auditSequence := cancelled.auditSequence } }
  let db ← appendObservabilityEvent db organizationId run.runId
    { phase := .terminal
      status := .cancelled
      reason := .runCancelled
      attributes :=
        [("run_status", .str "cancelled"),
          ("approval_request_id", .ofOption .id run.approvalRequestId),
          ("grant_id", .ofOption .id run.grantId),
          ("execution_id", .ofOption .id run.executionId),
          ("outbox_status", match outbox with
            | none => .null
            | some _ => .str "cancelled"),
          ("audit_sequence", .num sequence),
          ("version", .num (run.version + 1)),
          ("sensitive_fields_present", .bool false)] } now
  let vault := match grantId with
    | none => plane.vault
    | some grantId => plane.vault.discard grantId
  .ok (.ok cancelled, ⟨db, vault⟩)

/-- `cancel_production_run`; `current` is its unlocked read of the run. -/
def cancelProductionRun (actor : ActorContext) (organizationId : OrganizationId)
    (runId : RunId) (expectedVersion : Nat) (now : Time) (current : Option ProductionRun)
    (plane : Plane) : Except Failure (Outcome ProductionRun) :=
  if actor.organizationId ≠ organizationId then .error .resourceNotFound
  else do
    let (limited, db) ← consumeRateLimitOrAudit plane.db actor .mutate runId.text now
    match limited with
    | some failure => .ok (.error failure, { plane with db := db })
    | none =>
      match current with
      | none => .error .resourceNotFound
      | some current =>
        if current.version ≠ expectedVersion then .error .preconditionFailed
        else if current.status = .waitingApproval then
          match db.runs.one? fun r => r.organizationId = organizationId ∧ r.runId = runId ∧
              r.version = expectedVersion ∧ r.status = .waitingApproval with
          | none => .error .preconditionFailed
          | some run => cancelLocked actor organizationId run none now plane db
        else if current.status = .queued ∨ current.status = .leased then
          let db := ensurePartition db organizationId now
          let outbox := db.outbox.one? fun o => o.organizationId = organizationId ∧
            o.runId = runId ∧ o.status.active
          match db.runs.one? fun r => r.organizationId = organizationId ∧ r.runId = runId ∧
              r.version = expectedVersion ∧ (r.status = .queued ∨ r.status = .leased) with
          | none => .error .preconditionFailed
          | some run =>
            match outbox with
            | none => .error (.productionStateConflict "illegal_transition")
            | some outbox => cancelLocked actor organizationId run (some outbox) now plane db
        else .error (.productionStateConflict "illegal_transition")

end FlowPilot.Control
