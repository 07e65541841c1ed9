import FlowPilot.Lib.Table
import FlowPilot.Store.Status

/-!
# Rows and tables of the control database

One structure for each table that the Control API and the Workflow Worker share.  The key of a
table is the primary key, or the unique key by which the services address its rows; the other
unique keys and the checks that an insert or an update can violate are in `Store.Constraints`.
-/

open FlowPilot.Lib

namespace FlowPilot

abbrev OrganizationId := Id .org
abbrev UserId := Id .usr
abbrev IdentityId := Id .idn
abbrev MembershipId := Id .mbr
abbrev AuthorityId := Id .aut
abbrev RequestId := Id .apr
abbrev DecisionId := Id .dec
abbrev GrantId := Id .grt
abbrev ExecutionId := Id .exe
abbrev RunId := Id .run
abbrev OutboxId := Id .out

/-! ## Directory -/

structure Organization where
  organizationId : OrganizationId
  status : ActiveStatus
  version : Nat

structure User where
  userId : UserId
  organizationId : OrganizationId
  status : ActiveStatus
  version : Nat

structure OidcIdentity where
  identityId : IdentityId
  organizationId : OrganizationId
  userId : UserId
  issuerId : String
  issuerHash : Digest
  subjectHash : Digest
  status : ActiveStatus
  version : Nat

structure Membership where
  membershipId : MembershipId
  organizationId : OrganizationId
  userId : UserId
  role : Role
  status : ActiveStatus
  version : Nat

instance : Keyed Organization OrganizationId := ⟨Organization.organizationId⟩
instance : Keyed User UserId := ⟨User.userId⟩
instance : Keyed OidcIdentity IdentityId := ⟨OidcIdentity.identityId⟩
instance : Keyed Membership (OrganizationId × UserId) := ⟨fun m => (m.organizationId, m.userId)⟩

structure Directory where
  organizations : Table Organization
  users : Table User
  identities : Table OidcIdentity
  memberships : Table Membership

/-! ## Approvals -/

structure ApprovalAuthority where
  authorityId : AuthorityId
  organizationId : OrganizationId
  userId : UserId
  role : ApprovalRole
  status : AuthorityStatus
  version : Nat
  updatedAt : Time

structure ApprovalRequest where
  requestId : RequestId
  organizationId : OrganizationId
  taskId : String
  stepId : String
  actionType : String
  parameterHash : Digest
  riskLevel : RiskLevel
  requesterUserId : UserId
  executorUserId : UserId
  requiredRoles : List ApprovalRole
  status : RequestStatus
  version : Nat
  expiresAt : Time
  closedReason : Option ApprovalReason
  auditSequence : Nat
  createdAt : Time
  updatedAt : Time

structure ApprovalDecision where
  decisionId : DecisionId
  organizationId : OrganizationId
  requestId : RequestId
  decision : DecisionValue
  approverUserId : UserId
  authorityId : AuthorityId
  approvalRole : ApprovalRole
  requestVersion : Nat
  actionType : String
  parameterHash : Digest
  reason : ApprovalReason
  auditSequence : Nat
  createdAt : Time

structure ApprovalGrant where
  grantId : GrantId
  organizationId : OrganizationId
  requestId : RequestId
  taskId : String
  stepId : String
  actionType : String
  parameterHash : Digest
  riskLevel : RiskLevel
  approvalSetHash : Digest
  executorUserId : UserId
  tokenHash : Digest
  nonceHash : Digest
  status : GrantStatus
  version : Nat
  expiresAt : Time
  executionId : Option ExecutionId
  authorizationHash : Option Digest
  receiptReference : Option String
  claimedAt : Option Time
  consumedAt : Option Time
  createdAt : Time
  updatedAt : Time

instance : Keyed ApprovalAuthority AuthorityId := ⟨ApprovalAuthority.authorityId⟩
instance : Keyed ApprovalRequest RequestId := ⟨ApprovalRequest.requestId⟩
instance : Keyed ApprovalDecision DecisionId := ⟨ApprovalDecision.decisionId⟩
instance : Keyed ApprovalGrant GrantId := ⟨ApprovalGrant.grantId⟩

/-! ## Production dispatch -/

structure ProductionRun where
  runId : RunId
  organizationId : OrganizationId
  requesterUserId : UserId
  executorUserId : UserId
  taskId : TaskId
  process : Process
  category : Category
  approvalRequestId : Option RequestId
  grantId : Option GrantId
  executionId : Option ExecutionId
  actionType : String
  parameterHash : Digest
  authorizationHash : Digest
  approvalSetHash : Option Digest
  payloadReference : String
  payloadHash : Digest
  status : RunStatus
  version : Nat
  idempotencyHash : Digest
  bodyHash : Digest
  workflowId : String
  workflowHash : Digest
  leaseOwnerHash : Option Digest
  fencingToken : Nat
  leaseExpiresAt : Option Time
  acceptedAt : Time
  queuedAt : Option Time
  startedAt : Option Time
  finishedAt : Option Time
  terminalReason : Option TerminalReason
  receiptReference : Option String
  auditSequence : Nat
  createdAt : Time
  updatedAt : Time
  deriving DecidableEq

structure DispatchOutbox where
  outboxId : OutboxId
  organizationId : OrganizationId
  runId : RunId
  status : OutboxStatus
  attemptCount : Nat
  fencingToken : Nat
  leaseOwnerHash : Option Digest
  leaseVersion : Nat
  leasedAt : Option Time
  leaseExpiresAt : Option Time
  heartbeatAt : Option Time
  availableAt : Time
  expiresAt : Time
  createdAt : Time
  updatedAt : Time

structure WorkerLease where
  organizationId : OrganizationId
  outboxId : OutboxId
  runId : RunId
  workerOwnerHash : Digest
  leaseVersion : Nat
  fencingToken : Nat
  leasedAt : Time
  leaseExpiresAt : Time
  heartbeatAt : Time
  attemptCount : Nat
  status : LeaseStatus
  closedAt : Option Time

structure SchedulerPartition where
  organizationId : OrganizationId
  partitionId : String
  readyCount : Int
  status : PartitionStatus
  cursorVersion : Nat
  lastSelectedAt : Option Time
  updatedAt : Time

structure RateLimitBucket where
  organizationId : OrganizationId
  bucketKeyHash : Digest
  scopeKind : ScopeKind
  routeClass : RouteClass
  tokensMicro : Nat
  lastRefillAt : Time
  status : ActiveStatus
  version : Nat
  createdAt : Time
  updatedAt : Time

structure IdempotencyRecord where
  organizationId : OrganizationId
  actorUserId : UserId
  keyHash : Digest
  bodyHash : Digest
  runId : RunId
  createdAt : Time

instance : Keyed ProductionRun RunId := ⟨ProductionRun.runId⟩
instance : Keyed DispatchOutbox OutboxId := ⟨DispatchOutbox.outboxId⟩
instance : Keyed WorkerLease (OrganizationId × OutboxId × Nat) :=
  ⟨fun l => (l.organizationId, l.outboxId, l.fencingToken)⟩
instance : Keyed SchedulerPartition OrganizationId := ⟨SchedulerPartition.organizationId⟩
instance : Keyed RateLimitBucket (OrganizationId × Digest × RouteClass) :=
  ⟨fun b => (b.organizationId, b.bucketKeyHash, b.routeClass)⟩
instance : Keyed IdempotencyRecord (OrganizationId × UserId × Digest) :=
  ⟨fun r => (r.organizationId, r.actorUserId, r.keyHash)⟩

@[simp] theorem key_request (r : ApprovalRequest) : Keyed.key r = r.requestId := rfl
@[simp] theorem key_grant (g : ApprovalGrant) : Keyed.key g = g.grantId := rfl
@[simp] theorem key_run (r : ProductionRun) : Keyed.key r = r.runId := rfl
@[simp] theorem key_outbox (o : DispatchOutbox) : Keyed.key o = o.outboxId := rfl
@[simp] theorem key_partition (p : SchedulerPartition) : Keyed.key p = p.organizationId := rfl

/-! ## Audit log and traces -/

structure AuditChainHead where
  organizationId : OrganizationId
  headSequence : Nat
  headHash : Digest
  version : Nat
  updatedAt : Time

/-- The payload is stored as the bytes of its text. -/
structure AuditEvent where
  organizationId : OrganizationId
  sequence : Nat
  eventId : String
  eventType : AuditEventType
  actorReference : String
  subjectReference : String
  payloadJson : List Nat
  payloadHash : Digest
  previousHash : Digest
  eventHash : Digest
  createdAt : Time

instance : Keyed AuditChainHead OrganizationId := ⟨AuditChainHead.organizationId⟩
instance : Keyed AuditEvent (OrganizationId × Nat) := ⟨fun e => (e.organizationId, e.sequence)⟩

/-- The chain heads and the events; no event lies beyond the head of its organization. -/
structure AuditLog where
  heads : Table AuditChainHead
  events : Table AuditEvent
  bounded : ∀ e ∈ events.rows, ∃ h, heads.get? e.organizationId = some h ∧
    e.sequence ≤ h.headSequence

structure ObservabilityEvent where
  eventId : Id .obs
  organizationId : OrganizationId
  runId : RunId
  eventSequence : Nat
  traceId : String
  spanId : String
  parentSpanId : Option String
  phase : TracePhase
  status : TraceStatus
  failureCategory : FailureCategory
  reason : TraceReason
  attributesJson : Json
  attributesHash : Digest
  eventHash : Digest
  observedAt : Time

structure Db where
  directory : Directory
  authorities : Table ApprovalAuthority
  requests : Table ApprovalRequest
  decisions : Table ApprovalDecision
  grants : Table ApprovalGrant
  runs : Table ProductionRun
  outbox : Table DispatchOutbox
  leases : Table WorkerLease
  partitions : Table SchedulerPartition
  buckets : Table RateLimitBucket
  idempotency : Table IdempotencyRecord
  audit : AuditLog
  traces : List ObservabilityEvent

/-- A store with a directory and audit heads but no approvals and no runs. -/
def Db.initial (directory : Directory) (authorities : Table ApprovalAuthority)
    (heads : Table AuditChainHead) : Db where
  directory := directory
  authorities := authorities
  requests := .empty
  decisions := .empty
  grants := .empty
  runs := .empty
  outbox := .empty
  leases := .empty
  partitions := .empty
  buckets := .empty
  idempotency := .empty
  audit := ⟨heads, .empty, by intro e he; cases he⟩
  traces := []

/-! ## Failures -/

/-- What an operation raises; the names are those of the exception classes. -/
inductive Failure where
  | resourceNotFound
  | resourceConflict
  | preconditionFailed
  | authorizationDenied (code : String)
  | approvalStateConflict (detail : String)
  | riskDenied
  | riskSchemaRejected
  | grantRejected
  | idempotencyConflict (detail : String)
  | productionStateConflict (detail : String)
  | rateLimitExceeded (retryAfter : Nat)
  | backpressureExceeded (retryAfter : Nat)
  | auditPayloadRejected
  | auditChainMissing
  | observabilityPayloadRejected (detail : String)
  | runtimeError (detail : String)
  | integrityError
  deriving DecidableEq, Repr

/-! ## Random identifiers -/

/-- The first unused token stands for a random identifier that does not collide. -/
def freshToken (used : List Nat) : Nat := used.foldr max 0 + 1

theorem lt_freshToken {used : List Nat} {n : Nat} (h : n ∈ used) : n < freshToken used := by
  have hle : n ≤ used.foldr max 0 := by
    induction used with
    | nil => cases h
    | cons m ms ih =>
      rw [List.foldr_cons]
      rcases List.mem_cons.mp h with rfl | hm
      · exact Nat.le_max_left _ _
      · exact Nat.le_trans (ih hm) (Nat.le_max_right _ _)
  unfold freshToken
  omega

namespace Db

def freshRunId (db : Db) : RunId := ⟨freshToken (db.runs.rows.map (·.runId.token))⟩
def freshOutboxId (db : Db) : OutboxId := ⟨freshToken (db.outbox.rows.map (·.outboxId.token))⟩
def freshRequestId (db : Db) : RequestId :=
  ⟨freshToken (db.requests.rows.map (·.requestId.token))⟩
def freshDecisionId (db : Db) : DecisionId :=
  ⟨freshToken (db.decisions.rows.map (·.decisionId.token))⟩
def freshGrantId (db : Db) : GrantId := ⟨freshToken (db.grants.rows.map (·.grantId.token))⟩
def freshAuthorityId (db : Db) : AuthorityId :=
  ⟨freshToken (db.authorities.rows.map (·.authorityId.token))⟩
def freshExecutionId (db : Db) : ExecutionId :=
  ⟨freshToken (db.grants.rows.filterMap (·.executionId.map Id.token))⟩

theorem freshRunId_fresh (db : Db) : db.runs.get? db.freshRunId = none := by
  apply Table.get?_eq_none.mpr
  intro r hr hkey
  have hlt := lt_freshToken (List.mem_map_of_mem (f := fun r : ProductionRun => r.runId.token) hr)
  have htoken : r.runId.token = db.freshRunId.token := congrArg Id.token hkey
  exact Nat.ne_of_lt hlt htoken

theorem freshOutboxId_fresh (db : Db) : db.outbox.get? db.freshOutboxId = none := by
  apply Table.get?_eq_none.mpr
  intro o ho hkey
  have hlt := lt_freshToken
    (List.mem_map_of_mem (f := fun o : DispatchOutbox => o.outboxId.token) ho)
  have htoken : o.outboxId.token = db.freshOutboxId.token := congrArg Id.token hkey
  exact Nat.ne_of_lt hlt htoken

theorem freshRequestId_fresh (db : Db) : db.requests.get? db.freshRequestId = none := by
  apply Table.get?_eq_none.mpr
  intro r hr hkey
  have hlt := lt_freshToken
    (List.mem_map_of_mem (f := fun r : ApprovalRequest => r.requestId.token) hr)
  have htoken : r.requestId.token = db.freshRequestId.token := congrArg Id.token hkey
  exact Nat.ne_of_lt hlt htoken

end Db

end FlowPilot
