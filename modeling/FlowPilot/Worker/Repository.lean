import FlowPilot.Worker.Binding

/-!
# The workflow worker's repository

One definition for each method of `WorkflowRepository`.  A method runs in one transaction that
holds the locks of the rows it reads until it commits, so it is a function of the committed state
at its commit; an exception rolls it back.  The rows that `SKIP LOCKED` passes over are a
parameter.
-/

open FlowPilot.Lib

namespace FlowPilot.Worker

/-- The frozen lease contract that `WorkerSettings.validate` enforces. -/
def leaseTtl : Time := 30 * second

def maximumAttempts : Nat := 3

/-- The repository of one worker process, known by the hash of its instance id. -/
structure Repository where
  ownerHash : Digest
  deriving DecidableEq

variable [Sha256]

/-! ## Helpers -/

/-- `_lease_history`. -/
def leaseHistory (db : Db) (outbox : DispatchOutbox) (status : LeaseStatus) (now : Time) :
    Except Failure Db :=
  if outbox.fencingToken < 1 ∨ outbox.leasedAt.isNone then .ok db
  else
    db.insertLease
      { organizationId := outbox.organizationId
        outboxId := outbox.outboxId
        runId := outbox.runId
        workerOwnerHash := outbox.leaseOwnerHash
        leaseVersion := outbox.leaseVersion
        fencingToken := outbox.fencingToken
        leasedAt := outbox.leasedAt
        leaseExpiresAt := outbox.leaseExpiresAt
        heartbeatAt := outbox.heartbeatAt.or outbox.leasedAt
        attemptCount := outbox.attemptCount
        status := status
        closedAt := some now }

/-- `_record_stale_fence`. -/
def recordStaleFence (db : Db) (item : WorkItem) (now : Time) : Except Failure Db :=
  match db.outbox.one? fun o =>
      o.organizationId = item.organizationId ∧ o.outboxId = item.outboxId with
  | none => .ok db
  | some current => do
    let (_, db) ← appendAudit db item.organizationId .staleFenceRejected item.workerOwnerHash
      current.runId.text
      [("schema_version", .str "w12-audit-payload/1.0"),
        ("run_id", .id current.runId),
        ("outbox_id", .id current.outboxId),
        ("outbox_status", .str current.status.value),
        ("fencing_token", .num current.fencingToken),
        ("reason", .str "stale_fence")] now
    appendTraceEvent db item.organizationId current.runId
      { phase := .lease
        status := .rejected
        reason := .staleFenceRejected
        failureCategory := .leaseFence
        attributes :=
          [("outbox_id", .id current.outboxId),
            ("outbox_status", .str current.status.value),
            ("fencing_token", .num current.fencingToken),
            ("worker_reference", .digest item.workerOwnerHash),
            ("sensitive_fields_present", .bool false)] } now

def terminalFailureCategory : TerminalReason → FailureCategory
  | .authorizationInvalid => .authz
  | .queueExpired => .queueExpiry
  | .leaseExhausted => .leaseFence
  | .workflowRejected => .workflowRejected
  | .receiptInvalid => .receiptInvalid
  | .workerDrained => .leaseFence
  | .dependencyUnavailable => .dependencyUnavailable
  | .agentFailed => .recoveryFailure
  | _ => .none

/-- Stamps the run with the sequence of the audit event about it. -/
def setAuditSequence (db : Db) (where_ : ProductionRun → Bool) (sequence : Nat) : Db :=
  { db with runs := db.runs.update where_ fun r => { r with auditSequence := sequence } }

/-- The claimed request and grant of a failed run fail with it. -/
def failApproval (w : Repository) (db : Db) (run : ProductionRun) (reason : TerminalReason)
    (now : Time) : Except Failure Db :=
  match run.approvalRequestId, run.grantId, run.executionId with
  | some requestId, some grantId, some executionId =>
    let request := db.requests.one? fun r =>
      r.organizationId = run.organizationId ∧ r.requestId = requestId
    let grant := db.grants.one? fun g =>
      g.organizationId = run.organizationId ∧ g.grantId = grantId ∧ g.requestId = requestId ∧
        g.executionId = some executionId
    match request, grant with
    | some request, some grant =>
      if request.status = .claimed ∧ grant.status = .claimed then do
        let db :=
          { db with
            requests := db.requests.update
              (fun r => r.organizationId = run.organizationId ∧ r.requestId = requestId ∧
                r.status = .claimed)
              fun r => { r with status := .failed, version := r.version + 1, updatedAt := now }
            grants := db.grants.update
              (fun g => g.organizationId = run.organizationId ∧ g.grantId = grantId ∧
                g.executionId = some executionId ∧ g.status = .claimed)
              fun g => { g with status := .failed, version := g.version + 1, updatedAt := now } }
        let (_, db) ← appendAudit db run.organizationId .executionFailed w.ownerHash
          grantId.text
          [("schema_version", .str "w11-audit-payload/1.0"),
            ("request_id", .id requestId),
            ("grant_id", .id grantId),
            ("grant_status", .str "failed"),
            ("execution_id", .id executionId),
            ("reason", .str reason.value)] now
        .ok db
      else .ok db
    | _, _ => .ok db
  | _, _, _ => .ok db

/-- `_fail_locked`. -/
def failLocked (w : Repository) (db : Db) (run : ProductionRun) (outbox : DispatchOutbox)
    (reason : TerminalReason) (now : Time) : Except Failure (Bool × Db) := do
  let db ← leaseHistory db outbox .failed now
  let db ← db.updateOutbox
    (fun o => o.organizationId = run.organizationId ∧ o.outboxId = outbox.outboxId)
    fun o => { o with status := .failed, updatedAt := now }
  let db :=
    { db with
      runs := db.runs.update
        (fun r => r.organizationId = run.organizationId ∧ r.runId = run.runId)
        fun r =>
          { r with
            status := .failed
            version := r.version + 1
            finishedAt := some now
            terminalReason := some reason
            updatedAt := now } }
  let db ← db.updatePartition run.organizationId fun p =>
    { p with
      readyCount := p.readyCount - 1
      cursorVersion := p.cursorVersion + 1
      updatedAt := now }
  let (sequence, db) ← appendAudit db run.organizationId .runFailed w.ownerHash run.runId.text
    [("schema_version", .str "w12-audit-payload/1.0"),
      ("run_id", .id run.runId),
      ("run_status", .str "failed"),
      ("reason", .str reason.value),
      ("fencing_token", .num outbox.fencingToken),
      ("version", .num (run.version + 1))] now
  let db := setAuditSequence db
    (fun r => r.organizationId = run.organizationId ∧ r.runId = run.runId) sequence
  let db ← appendTraceEvent db run.organizationId run.runId
    { phase := .terminal
      status := .failed
      reason := .runFailed
      failureCategory := terminalFailureCategory reason
      attributes :=
        [("run_status", .str "failed"),
          ("outbox_id", .id outbox.outboxId),
          ("outbox_status", .str "failed"),
          ("workflow_hash", .digest run.workflowHash),
          ("worker_reference", .digest w.ownerHash),
          ("fencing_token", .num outbox.fencingToken),
          ("attempt_count", .num outbox.attemptCount),
          ("audit_sequence", .num sequence),
          ("version", .num (run.version + 1)),
          ("sensitive_fields_present", .bool false)] } now
  let db ← failApproval w db run reason now
  .ok (true, db)

/-! ## claim_next -/

/-- `ORDER BY last_selected_at ASC NULLS FIRST, partition_id`. -/
def partitionBefore (a b : SchedulerPartition) : Bool :=
  match a.lastSelectedAt, b.lastSelectedAt with
  | none, none => decide (a.partitionId < b.partitionId)
  | none, some _ => true
  | some _, none => false
  | some s, some t => decide (s < t) || decide (s = t) && decide (a.partitionId < b.partitionId)

/-- `ORDER BY available_at, outbox_id`. -/
def outboxBefore (a b : DispatchOutbox) : Bool :=
  decide (a.availableAt < b.availableAt) ||
    decide (a.availableAt = b.availableAt) && decide (a.outboxId.token < b.outboxId.token)

def leaseLapsed (outbox : DispatchOutbox) (now : Time) : Prop :=
  match outbox.leaseExpiresAt with
  | none => False
  | some expires => expires ≤ now

instance (outbox : DispatchOutbox) (now : Time) : Decidable (leaseLapsed outbox now) := by
  unfold leaseLapsed
  split <;> infer_instance

/-- The rows that `claim_next` may take: ready ones, and leased ones whose lease has lapsed. -/
def claimable (organizationId : OrganizationId) (now : Time) (outbox : DispatchOutbox) : Prop :=
  outbox.organizationId = organizationId ∧
    (outbox.status = .ready ∧ outbox.availableAt ≤ now ∨
      (outbox.status = .leased ∨ outbox.status = .dispatched) ∧ leaseLapsed outbox now)

instance (organizationId : OrganizationId) (now : Time) (outbox : DispatchOutbox) :
    Decidable (claimable organizationId now outbox) := by
  unfold claimable
  infer_instance

/-- The rows that other transactions hold locked while `claim_next` selects. -/
structure Locked where
  partition : OrganizationId → Bool
  outbox : OutboxId → Bool

def Locked.nothing : Locked := ⟨fun _ => false, fun _ => false⟩

def selectPartition (db : Db) (locked : Locked) : Option SchedulerPartition :=
  db.partitions.firstBy? partitionBefore fun p =>
    decide (p.status = .ready ∧ p.readyCount > 0) && !locked.partition p.organizationId

def selectOutbox (db : Db) (locked : Locked) (organizationId : OrganizationId) (now : Time) :
    Option DispatchOutbox :=
  db.outbox.firstBy? outboxBefore fun o =>
    decide (claimable organizationId now o) && !locked.outbox o.outboxId

/-- The partition moves behind the others. -/
def touchPartition (db : Db) (organizationId : OrganizationId) (now : Time) :
    Except Failure Db :=
  db.updatePartition organizationId fun p =>
    { p with
      status := .ready
      lastSelectedAt := some now
      cursorVersion := p.cursorVersion + 1
      updatedAt := now }

/-- The branch of `claim_next` for a row past its queue expiry. -/
def expireQueued (w : Repository) (db : Db) (run : ProductionRun) (outbox : DispatchOutbox)
    (organizationId : OrganizationId) (now : Time) : Except Failure (Option WorkItem × Db) := do
  let db ← leaseHistory db outbox .expired now
  let db ← db.updateOutbox
    (fun o => o.organizationId = organizationId ∧ o.outboxId = outbox.outboxId)
    fun o => { o with status := .expired, updatedAt := now }
  let db :=
    { db with
      runs := db.runs.update (fun r => r.organizationId = organizationId ∧ r.runId = run.runId)
        fun r =>
          { r with
            status := .expired
            version := r.version + 1
            finishedAt := some now
            terminalReason := some .queueExpired
            updatedAt := now } }
  let db ← db.updatePartition organizationId fun p =>
    { p with
      readyCount := p.readyCount - 1
      cursorVersion := p.cursorVersion + 1
      updatedAt := now }
  let (sequence, db) ← appendAudit db organizationId .runExpired w.ownerHash run.runId.text
    [("schema_version", .str "w12-audit-payload/1.0"),
      ("run_id", .id run.runId),
      ("run_status", .str "expired"),
      ("reason", .str "queue_expired"),
      ("version", .num (run.version + 1))] now
  let db := setAuditSequence db
    (fun r => r.organizationId = organizationId ∧ r.runId = run.runId) sequence
  let db ← appendTraceEvent db organizationId run.runId
    { phase := .terminal
      status := .failed
      reason := .runExpired
      failureCategory := .queueExpiry
      attributes :=
        [("run_status", .str "expired"),
          ("outbox_id", .id outbox.outboxId),
          ("outbox_status", .str "expired"),
          ("audit_sequence", .num sequence),
          ("version", .num (run.version + 1)),
          ("sensitive_fields_present", .bool false)] } now
  .ok (none, db)

/-- A lapsed lease is closed before the row is leased again. -/
def closeLapsed (db : Db) (outbox : DispatchOutbox) (now : Time) : Except Failure Db :=
  if outbox.status ≠ .ready then leaseHistory db outbox .expired now else .ok db

/-- The last branch of `claim_next`: a new lease under the next fencing token. -/
def takeLease (w : Repository) (db : Db) (run : ProductionRun) (outbox : DispatchOutbox)
    (organizationId : OrganizationId) (now : Time) : Except Failure (Option WorkItem × Db) := do
  let reclaimed := decide (outbox.status ≠ .ready)
  let db ← closeLapsed db outbox now
  let fence := outbox.fencingToken + 1
  let leaseVersion := outbox.leaseVersion + 1
  let attempt := outbox.attemptCount + 1
  let expires := now + leaseTtl
  let sameOutbox : DispatchOutbox → Bool := fun o =>
    o.organizationId = organizationId ∧ o.outboxId = outbox.outboxId ∧
      o.status = outbox.status ∧ o.fencingToken = outbox.fencingToken ∧
      o.leaseVersion = outbox.leaseVersion
  if db.outbox.count sameOutbox ≠ 1 then .ok (none, db)
  else
    let db ← db.updateOutbox sameOutbox fun o =>
      { o with
        status := .leased
        attemptCount := attempt
        fencingToken := fence
        leaseOwnerHash := some w.ownerHash
        leaseVersion := leaseVersion
        leasedAt := some now
        leaseExpiresAt := some expires
        heartbeatAt := some now
        updatedAt := now }
    let nextStatus : RunStatus := if reclaimed then .recovering else .leased
    let sameRun : ProductionRun → Bool := fun r =>
      r.organizationId = organizationId ∧ r.runId = run.runId ∧ r.status = run.status ∧
        r.version = run.version ∧ r.fencingToken = run.fencingToken
    if db.runs.count sameRun ≠ 1 then
      .error (.runtimeError "production run fence changed during claim")
    else
      let db :=
        { db with
          runs := db.runs.update sameRun fun r =>
            { r with
              status := nextStatus
              version := r.version + 1
              leaseOwnerHash := some w.ownerHash
              fencingToken := fence
              leaseExpiresAt := some expires
              updatedAt := now } }
      let db ← touchPartition db organizationId now
      let (sequence, db) ← appendAudit db organizationId
        (if reclaimed then .runRecovered else .runLeased) w.ownerHash run.runId.text
        [("schema_version", .str "w12-audit-payload/1.0"),
          ("run_id", .id run.runId),
          ("outbox_id", .id outbox.outboxId),
          ("run_status", .str nextStatus.value),
          ("fencing_token", .num fence),
          ("attempt_count", .num attempt),
          ("version", .num (run.version + 1))] now
      let db := setAuditSequence db
        (fun r => r.organizationId = organizationId ∧ r.runId = run.runId ∧
          r.fencingToken = fence) sequence
      let db ← appendTraceEvent db organizationId run.runId
        { phase := .lease
          status := if reclaimed then .recovered else .leased
          reason := if reclaimed then .leaseRecovered else .leaseClaimed
          attributes :=
            [("run_status", .str nextStatus.value),
              ("outbox_id", .id outbox.outboxId),
              ("outbox_status", .str "leased"),
              ("workflow_hash", .digest run.workflowHash),
              ("worker_reference", .digest w.ownerHash),
              ("fencing_token", .num fence),
              ("lease_version", .num leaseVersion),
              ("attempt_count", .num attempt),
              ("audit_sequence", .num sequence),
              ("version", .num (run.version + 1)),
              ("sensitive_fields_present", .bool false)] } now
      .ok (some (workItem run outbox fence leaseVersion attempt now expires w.ownerHash), db)

/-- `claim_next`. -/
def claimNext (w : Repository) (locked : Locked) (now : Time) (db : Db) :
    Except Failure (Option WorkItem × Db) :=
  match selectPartition db locked with
  | none => .ok (none, db)
  | some partition =>
    let organizationId := partition.organizationId
    match selectOutbox db locked organizationId now with
    | none => do
      let db ← touchPartition db organizationId now
      .ok (none, db)
    | some outbox =>
      match db.runs.one? fun r =>
          r.organizationId = organizationId ∧ r.runId = outbox.runId with
      | none => .ok (none, db)
      | some run =>
        if outbox.expiresAt ≤ now then expireQueued w db run outbox organizationId now
        else if outbox.attemptCount ≥ maximumAttempts then do
          let (_, db) ← failLocked w db run outbox .leaseExhausted now
          .ok (none, db)
        else takeLease w db run outbox organizationId now

/-! ## Work under a lease -/

/-- `mark_started`. -/
def markStarted (w : Repository) (item : WorkItem) (now : Time) (db : Db) :
    Except Failure (Bool × Db) :=
  let outbox := db.outbox.one? fun o =>
    o.organizationId = item.organizationId ∧ o.outboxId = item.outboxId ∧
      o.status = .leased ∧ o.leaseOwnerHash = some item.workerOwnerHash ∧
      o.fencingToken = item.fencingToken ∧ ¬ o.leaseExpiresAt.isNone ∧ ¬ leaseLapsed o now
  let run := db.runs.one? fun r =>
    r.organizationId = item.organizationId ∧ r.runId = item.runId ∧
      (r.status = .leased ∨ r.status = .recovering) ∧
      r.leaseOwnerHash = some item.workerOwnerHash ∧ r.fencingToken = item.fencingToken
  match outbox, run with
  | some outbox, some run =>
    if ¬ bindingValid db item now false then do
      let (_, db) ← failLocked w db run outbox .authorizationInvalid now
      .ok (false, db)
    else do
      let db ← db.updateOutbox
        (fun o => o.organizationId = item.organizationId ∧ o.outboxId = item.outboxId ∧
          o.fencingToken = item.fencingToken)
        fun o => { o with status := .dispatched, updatedAt := now }
      let sameRun : ProductionRun → Bool := fun r =>
        r.organizationId = item.organizationId ∧ r.runId = item.runId ∧
          r.fencingToken = item.fencingToken
      let db :=
        { db with
          runs := db.runs.update sameRun fun r =>
            { r with
              status := .running
              version := r.version + 1
              startedAt := r.startedAt.or (some now)
              updatedAt := now } }
      let (sequence, db) ← appendAudit db item.organizationId .runStarted item.workerOwnerHash
        item.runId.text
        [("schema_version", .str "w12-audit-payload/1.0"),
          ("run_id", .id item.runId),
          ("outbox_id", .id item.outboxId),
          ("run_status", .str "running"),
          ("fencing_token", .num item.fencingToken),
          ("version", .num (run.version + 1))] now
      let db := setAuditSequence db sameRun sequence
      let db ← appendTraceEvent db item.organizationId item.runId
        { phase := .dispatch
          status := .running
          reason := .workerDispatched
          attributes :=
            [("run_status", .str "running"),
              ("outbox_id", .id item.outboxId),
              ("outbox_status", .str "dispatched"),
              ("workflow_hash", .digest item.workflowHash),
              ("worker_reference", .digest item.workerOwnerHash),
              ("fencing_token", .num item.fencingToken),
              ("lease_version", .num item.leaseVersion),
              ("audit_sequence", .num sequence),
              ("version", .num (run.version + 1)),
              ("sensitive_fields_present", .bool false)] } now
      let db ← appendTraceEvent db item.organizationId item.runId
        { phase := .workflow
          status := .running
          reason := .temporalReference
          attributes :=
            [("run_status", .str "running"),
              ("workflow_hash", .digest item.workflowHash),
              ("worker_reference", .digest item.workerOwnerHash),
              ("fencing_token", .num item.fencingToken),
              ("sensitive_fields_present", .bool false)] } now
      .ok (true, db)
  | _, _ => do
    let db ← recordStaleFence db item now
    .ok (false, db)

/-- `heartbeat`. -/
def heartbeat (item : WorkItem) (now : Time) (db : Db) : Except Failure (Bool × Db) := do
  let expires := now + leaseTtl
  let held : DispatchOutbox → Bool := fun o =>
    o.organizationId = item.organizationId ∧ o.outboxId = item.outboxId ∧
      (o.status = .leased ∨ o.status = .dispatched) ∧
      o.leaseOwnerHash = some item.workerOwnerHash ∧ o.fencingToken = item.fencingToken ∧
      o.leaseVersion = item.leaseVersion ∧ ¬ o.leaseExpiresAt.isNone ∧ ¬ leaseLapsed o now
  if db.outbox.count held ≠ 1 then
    let db ← recordStaleFence db item now
    .ok (false, db)
  else
    let db ← db.updateOutbox held fun o =>
      { o with heartbeatAt := some now, leaseExpiresAt := some expires, updatedAt := now }
    let db :=
      { db with
        runs := db.runs.update
          (fun r => r.organizationId = item.organizationId ∧ r.runId = item.runId ∧
            r.leaseOwnerHash = some item.workerOwnerHash ∧
            r.fencingToken = item.fencingToken)
          fun r => { r with leaseExpiresAt := some expires, updatedAt := now } }
    let (_, db) ← appendAudit db item.organizationId .leaseHeartbeat item.workerOwnerHash
      item.runId.text
      [("schema_version", .str "w12-audit-payload/1.0"),
        ("run_id", .id item.runId),
        ("outbox_id", .id item.outboxId),
        ("fencing_token", .num item.fencingToken)] now
    let db ← appendTraceEvent db item.organizationId item.runId
      { phase := .lease
        status := .leased
        reason := .leaseHeartbeat
        attributes :=
          [("run_status", .str "running"),
            ("outbox_id", .id item.outboxId),
            ("outbox_status", .str "dispatched"),
            ("workflow_hash", .digest item.workflowHash),
            ("worker_reference", .digest item.workerOwnerHash),
            ("fencing_token", .num item.fencingToken),
            ("lease_version", .num item.leaseVersion),
            ("sensitive_fields_present", .bool false)] } now
    .ok (true, db)

/-- `record_deduplicated`. -/
def recordDeduplicated (item : WorkItem) (now : Time) (db : Db) :
    Except Failure (Bool × Db) := do
  let current := db.outbox.count fun o =>
    o.organizationId = item.organizationId ∧ o.outboxId = item.outboxId ∧
      o.leaseOwnerHash = some item.workerOwnerHash ∧ o.fencingToken = item.fencingToken
  if current ≠ 1 then
    let db ← recordStaleFence db item now
    .ok (false, db)
  else
    let (_, db) ← appendAudit db item.organizationId .workflowDeduplicated
      item.workerOwnerHash item.runId.text
      [("schema_version", .str "w12-audit-payload/1.0"),
        ("run_id", .id item.runId),
        ("workflow_hash", .digest item.workflowHash),
        ("fencing_token", .num item.fencingToken)] now
    let db ← appendTraceEvent db item.organizationId item.runId
      { phase := .workflow
        status := .running
        reason := .temporalDeduplicated
        attributes :=
          [("run_status", .str "running"),
            ("workflow_hash", .digest item.workflowHash),
            ("worker_reference", .digest item.workerOwnerHash),
            ("fencing_token", .num item.fencingToken),
            ("sensitive_fields_present", .bool false)] } now
    .ok (true, db)

/-- `fail`. -/
def fail (w : Repository) (item : WorkItem) (reason : TerminalReason) (now : Time) (db : Db) :
    Except Failure (Bool × Db) :=
  let outbox := db.outbox.one? fun o =>
    o.organizationId = item.organizationId ∧ o.outboxId = item.outboxId ∧
      (o.status = .leased ∨ o.status = .dispatched) ∧
      o.leaseOwnerHash = some item.workerOwnerHash ∧ o.fencingToken = item.fencingToken ∧
      o.leaseVersion = item.leaseVersion
  let run := db.runs.one? fun r =>
    r.organizationId = item.organizationId ∧ r.runId = item.runId ∧
      (r.status = .leased ∨ r.status = .recovering ∨ r.status = .running) ∧
      r.leaseOwnerHash = some item.workerOwnerHash ∧ r.fencingToken = item.fencingToken
  match outbox, run with
  | some outbox, some run => failLocked w db run outbox reason now
  | _, _ => do
    let db ← recordStaleFence db item now
    .ok (false, db)

/-- `release`. -/
def release (item : WorkItem) (now : Time) (db : Db) : Except Failure (Bool × Db) :=
  match db.outbox.one? fun o =>
      o.organizationId = item.organizationId ∧ o.outboxId = item.outboxId ∧
        (o.status = .leased ∨ o.status = .dispatched) ∧
        o.leaseOwnerHash = some item.workerOwnerHash ∧
        o.fencingToken = item.fencingToken with
  | none => do
    let db ← recordStaleFence db item now
    .ok (false, db)
  | some outbox => do
    let db ← leaseHistory db outbox .released now
    -- The owner and the expiry go, but `leased_at` and the fencing token stay.
    let db ← db.updateOutbox
      (fun o => o.organizationId = item.organizationId ∧ o.outboxId = item.outboxId ∧
        o.fencingToken = item.fencingToken)
      fun o =>
        { o with
          status := .ready
          leaseOwnerHash := none
          leaseExpiresAt := none
          heartbeatAt := none
          updatedAt := now }
    let db :=
      { db with
        runs := db.runs.update
          (fun r => r.organizationId = item.organizationId ∧ r.runId = item.runId ∧
            r.fencingToken = item.fencingToken)
          fun r =>
            { r with
              status := .queued
              version := r.version + 1
              leaseOwnerHash := none
              leaseExpiresAt := none
              updatedAt := now } }
    let (_, db) ← appendAudit db item.organizationId .leaseReleased item.workerOwnerHash
      item.runId.text
      [("schema_version", .str "w12-audit-payload/1.0"),
        ("run_id", .id item.runId),
        ("outbox_id", .id item.outboxId),
        ("run_status", .str "queued"),
        ("fencing_token", .num item.fencingToken),
        ("reason", .str "worker_drained")] now
    let db ← appendTraceEvent db item.organizationId item.runId
      { phase := .lease
        status := .released
        reason := .leaseReleased
        attributes :=
          [("run_status", .str "queued"),
            ("outbox_id", .id item.outboxId),
            ("outbox_status", .str "ready"),
            ("workflow_hash", .digest item.workflowHash),
            ("worker_reference", .digest item.workerOwnerHash),
            ("fencing_token", .num item.fencingToken),
            ("lease_version", .num item.leaseVersion),
            ("sensitive_fields_present", .bool false)] } now
    .ok (true, db)

end FlowPilot.Worker
