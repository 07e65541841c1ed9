import FlowPilot.Worker.Logs

/-!
# Work items and the authorization recheck

`_authorization_hash`, `_approval_set_hash` and `_binding_valid` of the workflow worker's
repository.  Their row locks do not change what they return.
-/

open FlowPilot.Lib

namespace FlowPilot.Worker

structure WorkItem where
  organizationId : OrganizationId
  outboxId : OutboxId
  runId : RunId
  executorUserId : UserId
  taskId : TaskId
  process : Process
  category : Category
  actionType : String
  parameterHash : Digest
  authorizationHash : Digest
  approvalRequestId : Option RequestId
  grantId : Option GrantId
  executionId : Option ExecutionId
  approvalSetHash : Option Digest
  payloadReference : String
  payloadHash : Digest
  workflowId : String
  workflowHash : Digest
  workerOwnerHash : Digest
  fencingToken : Nat
  leaseVersion : Nat
  attemptCount : Nat
  leasedAt : Time
  leaseExpiresAt : Time
  deriving DecidableEq

variable [Sha256]

/-- `ORDER BY role, authority_id`. -/
def authorityBefore (a b : ApprovalAuthority) : Prop :=
  a.role.value < b.role.value ∨ a.role = b.role ∧ a.authorityId.token ≤ b.authorityId.token

instance (a b : ApprovalAuthority) : Decidable (authorityBefore a b) := by
  unfold authorityBefore
  infer_instance

/-- `_authorization_hash`. -/
def authorizationHash (db : Db) (organizationId : OrganizationId) (userId : UserId) :
    Option Digest :=
  let organization := db.directory.organizations.one? fun o =>
    o.organizationId = organizationId ∧ o.status = .active
  let user := db.directory.users.one? fun u =>
    u.organizationId = organizationId ∧ u.userId = userId ∧ u.status = .active
  let membership := db.directory.memberships.one? fun m =>
    m.organizationId = organizationId ∧ m.userId = userId ∧ m.status = .active
  let identities := db.directory.identities.select fun i =>
    i.organizationId = organizationId ∧ i.userId = userId ∧ i.status = .active
  match organization, user, membership, identities with
  | some organization, some user, some membership, [identity] =>
    let authorities := (db.authorities.select fun a =>
      a.organizationId = organizationId ∧ a.userId = userId ∧ a.status = .active).insertionSort
        authorityBefore
    some (stableHash (.obj
      [("schema_version", .str "w10-authorization-fact/1.0"),
        ("identity_id", .id identity.identityId),
        ("identity_version", .num identity.version),
        ("organization_id", .id organization.organizationId),
        ("organization_version", .num organization.version),
        ("user_id", .id user.userId),
        ("user_version", .num user.version),
        ("membership_id", .id membership.membershipId),
        ("membership_version", .num membership.version),
        ("role", .str membership.role.value),
        ("approval_authorities", .arr (authorities.map fun a =>
          .obj [("authority_id", .id a.authorityId),
            ("role", .str a.role.value),
            ("version", .num a.version)]))]))
  | _, _, _, _ => none

/-- `ORDER BY approval_role, decision_id`. -/
def decisionBefore (a b : ApprovalDecision) : Prop :=
  a.approvalRole.value < b.approvalRole.value ∨
    a.approvalRole = b.approvalRole ∧ a.decisionId.token ≤ b.decisionId.token

instance (a b : ApprovalDecision) : Decidable (decisionBefore a b) := by
  unfold decisionBefore
  infer_instance

def approvedDecisions (db : Db) (organizationId : OrganizationId) (requestId : RequestId) :
    List ApprovalDecision :=
  (db.decisions.select fun d => d.organizationId = organizationId ∧ d.requestId = requestId ∧
    d.decision = .approved).insertionSort decisionBefore

/-- The authority behind a decision, when it and its holder are still active. -/
def activeApproval (db : Db) (organizationId : OrganizationId) (decision : ApprovalDecision) :
    Option ApprovalAuthority :=
  let authority := db.authorities.one? fun a =>
    a.organizationId = organizationId ∧ a.authorityId = decision.authorityId ∧
      a.userId = decision.approverUserId ∧ a.role = decision.approvalRole ∧ a.status = .active
  let approver := db.directory.users.one? fun u =>
    u.organizationId = organizationId ∧ u.userId = decision.approverUserId ∧ u.status = .active
  let membership := db.directory.memberships.one? fun m =>
    m.organizationId = organizationId ∧ m.userId = decision.approverUserId ∧
      m.status = .active ∧ m.role ≠ .auditor
  match authority, approver, membership with
  | some authority, some _, some _ => some authority
  | _, _, _ => none

def approvalItem (decision : ApprovalDecision) (authority : ApprovalAuthority) : Json :=
  .obj [("decision_id", .id decision.decisionId),
    ("approver_user_id", .id decision.approverUserId),
    ("authority_id", .id decision.authorityId),
    ("approval_role", .str decision.approvalRole.value),
    ("authority_version", .num authority.version)]

/-- The decisions come ordered by role, which is the order that `sorted` keeps. -/
def approvalItems (db : Db) (organizationId : OrganizationId) :
    List ApprovalDecision → Option (List Json)
  | [] => some []
  | decision :: rest =>
    match activeApproval db organizationId decision with
    | none => none
    | some authority =>
      (approvalItems db organizationId rest).map (approvalItem decision authority :: ·)

/-- `_approval_set_hash`. -/
def approvalSetHash (db : Db) (organizationId : OrganizationId) (requestId : RequestId) :
    Option Digest :=
  (approvalItems db organizationId (approvedDecisions db organizationId requestId)).map
    fun items => stableHash (.obj
      [("schema_version", .str "w11-required-approval-set/1.0"), ("approvals", .arr items)])

/-- The request and the grant are claimed for exactly the work item. -/
def claimedFor (item : WorkItem) (request : ApprovalRequest) (grant : ApprovalGrant) : Prop :=
  request.status = .claimed ∧ grant.status = .claimed ∧
  request.taskId = item.taskId.value ∧ request.stepId = "production_run" ∧
  request.actionType = item.actionType ∧ request.parameterHash = item.parameterHash ∧
  request.executorUserId = item.executorUserId ∧
  grant.taskId = item.taskId.value ∧ grant.stepId = "production_run" ∧
  grant.actionType = item.actionType ∧ grant.parameterHash = item.parameterHash ∧
  grant.executorUserId = item.executorUserId ∧
  grant.authorizationHash = some item.authorizationHash ∧
  some grant.approvalSetHash = item.approvalSetHash

instance (item : WorkItem) (request : ApprovalRequest) (grant : ApprovalGrant) :
    Decidable (claimedFor item request grant) := by
  unfold claimedFor
  infer_instance

/-- `_binding_valid`; every caller passes `check_expiry=False`. -/
def bindingValid (db : Db) (item : WorkItem) (now : Time) (checkExpiry : Bool) : Bool :=
  if authorizationHash db item.organizationId item.executorUserId ≠
      some item.authorizationHash then false
  else
    match item.approvalRequestId with
    | none => item.grantId.isNone && item.executionId.isNone
    | some requestId =>
      let request := db.requests.one? fun r =>
        r.organizationId = item.organizationId ∧ r.requestId = requestId
      let grant := db.grants.one? fun g =>
        g.organizationId = item.organizationId ∧ some g.grantId = item.grantId ∧
          g.requestId = requestId ∧ g.executionId = item.executionId
      match request, grant with
      | some request, some grant =>
        if checkExpiry && (decide (request.expiresAt ≤ now) || decide (grant.expiresAt ≤ now))
        then false
        else if ¬ claimedFor item request grant then false
        else
          let approvalHash := approvalSetHash db item.organizationId requestId
          let decisionCount :=
            (approvedDecisions db item.organizationId requestId).length
          decide (approvalHash = item.approvalSetHash) &&
            decide (decisionCount = request.requiredRoles.length)
      | _, _ => false

def workItem (run : ProductionRun) (outbox : DispatchOutbox) (fence leaseVersion attempt : Nat)
    (leasedAt leaseExpiresAt : Time) (ownerHash : Digest) : WorkItem where
  organizationId := run.organizationId
  outboxId := outbox.outboxId
  runId := run.runId
  executorUserId := run.executorUserId
  taskId := run.taskId
  process := run.process
  category := run.category
  actionType := run.actionType
  parameterHash := run.parameterHash
  authorizationHash := run.authorizationHash
  approvalRequestId := run.approvalRequestId
  grantId := run.grantId
  executionId := run.executionId
  approvalSetHash := run.approvalSetHash
  payloadReference := run.payloadReference
  payloadHash := run.payloadHash
  workflowId := run.workflowId
  workflowHash := run.workflowHash
  workerOwnerHash := ownerHash
  fencingToken := fence
  leaseVersion := leaseVersion
  attemptCount := attempt
  leasedAt := leasedAt
  leaseExpiresAt := leaseExpiresAt

end FlowPilot.Worker
