import FlowPilot.Control.Risk

/-!
# Approval state and one-time execution grants

`approval.py` of the Control API.  An operation is a transaction: `.error` is an exception with a
rollback, and `.ok (.error _, _)` an exception raised after a commit.  Reads that the source takes
without a lock and uses later are separate definitions, so that they can also be taken at an
earlier state than the commit.
-/

open FlowPilot.Lib

namespace FlowPilot.Control

def requestTtl : Time := 600 * second

def grantTtl : Time := 120 * second

/-- The part of the resolved actor that the operations read. -/
structure ActorContext where
  userId : UserId
  organizationId : OrganizationId
  role : Role
  authorizationHash : Digest

/-- What `_new_credential` draws; the joined text is split back into the same two parts. -/
structure Credential where
  token : String
  nonce : String
  deriving DecidableEq

/-- `TrustedGrantVault`. -/
structure Vault where
  entries : List (GrantId × Credential)

namespace Vault

def capacity : Nat := 64

def peek (vault : Vault) (grantId : GrantId) : Option Credential :=
  (vault.entries.find? fun e => e.1 = grantId).map (·.2)

def put (vault : Vault) (grantId : GrantId) (credential : Credential) :
    Except Failure Vault :=
  if (vault.peek grantId).isSome ∨ capacity ≤ vault.entries.length then
    .error (.approvalStateConflict "trusted grant vault is unavailable")
  else .ok ⟨vault.entries ++ [(grantId, credential)]⟩

def discard (vault : Vault) (grantId : GrantId) : Vault :=
  ⟨vault.entries.filter fun e => e.1 ≠ grantId⟩

end Vault

/-- The database and the vault of the Control API process. -/
structure Plane where
  db : Db
  vault : Vault

/-- What is committed with a reply. -/
abbrev Outcome (α : Type) := Except Failure α × Plane

def schemaField (version : String) : String × Json := ("schema_version", .str version)

def w11Payload (fields : List (String × Json)) : List (String × Json) :=
  schemaField "w11-audit-payload/1.0" :: fields

def w12Payload (fields : List (String × Json)) : List (String × Json) :=
  schemaField "w12-audit-payload/1.0" :: fields

variable [Sha256]

/-! ## Authorities -/

/-- `create_authority`. -/
def createAuthority (actor : ActorContext) (organizationId : OrganizationId) (userId : UserId)
    (role : ApprovalRole) (now : Time) (plane : Plane) :
    Except Failure (Outcome ApprovalAuthority) :=
  let db := plane.db
  if actor.organizationId ≠ organizationId then .error .resourceNotFound
  else if (db.directory.users.one? fun u =>
      u.organizationId = organizationId ∧ u.userId = userId).isNone then
    .error .resourceNotFound
  else
    let authority : ApprovalAuthority :=
      { authorityId := db.freshAuthorityId
        organizationId := organizationId
        userId := userId
        role := role
        status := .active
        version := 1
        updatedAt := now }
    match db.insertAuthority authority with
    | .error _ => .error .resourceConflict
    | .ok db => .ok (.ok authority, { plane with db := db })

/-- The issued grants whose request carries a decision under the authority. -/
def affectedGrants (db : Db) (organizationId : OrganizationId) (authorityId : AuthorityId) :
    List ApprovalGrant :=
  db.grants.select fun g => g.organizationId = organizationId ∧ g.status = .issued ∧
    (db.decisions.one? fun d => d.organizationId = organizationId ∧
      d.requestId = g.requestId ∧ d.authorityId = authorityId).isSome

/-- Revokes one affected grant and invalidates its request when that is approved. -/
def revokeAffected (actor : ActorContext) (organizationId : OrganizationId) (now : Time)
    (db : Db) (grant : ApprovalGrant) : Except Failure Db := do
  let db :=
    { db with
      grants := db.grants.update (fun g => g.grantId = grant.grantId) fun g =>
        { g with status := .revoked, version := grant.version + 1, updatedAt := now } }
  match db.requests.one? fun r =>
      r.organizationId = organizationId ∧ r.requestId = grant.requestId with
  | none => .ok db
  | some request =>
    if request.status = .approved then do
      let (sequence, db) ← appendAuditEvent db organizationId .requestInvalidated
        actor.authorizationHash request.requestId.text
        (w11Payload [("request_id", .id request.requestId),
          ("request_status", .str "invalidated"),
          ("reason", .str ApprovalReason.authorityInactive.value),
          ("version", .num (request.version + 1))]) now
      .ok { db with
        requests := db.requests.update (fun r => r.requestId = request.requestId) fun r =>
          { r with
            status := .invalidated
            closedReason := some .authorityInactive
            version := request.version + 1
            updatedAt := now
            auditSequence := sequence } }
    else .ok db

def revokeAll (actor : ActorContext) (organizationId : OrganizationId) (now : Time) :
    Db → List ApprovalGrant → Except Failure Db
  | db, [] => .ok db
  | db, grant :: rest => do
    let db ← revokeAffected actor organizationId now db grant
    revokeAll actor organizationId now db rest

/-- `disable_authority`; `affected` is what its locking scan of the issued grants returned. -/
def disableAuthority (actor : ActorContext) (organizationId : OrganizationId)
    (authorityId : AuthorityId) (expectedVersion : Nat) (now : Time)
    (affected : List ApprovalGrant) (plane : Plane) :
    Except Failure (Outcome ApprovalAuthority) :=
  let db := plane.db
  if actor.organizationId ≠ organizationId then .error .resourceNotFound
  else if (db.authorities.one? fun a =>
      a.organizationId = organizationId ∧ a.authorityId = authorityId).isNone then
    .error .resourceNotFound
  else
    match db.authorities.one? fun a => a.organizationId = organizationId ∧
        a.authorityId = authorityId ∧ a.version = expectedVersion ∧ a.status = .active with
    | none => .error .preconditionFailed
    | some authority => do
      let record := { authority with
        status := AuthorityStatus.disabled, version := authority.version + 1, updatedAt := now }
      let db :=
        { db with
          authorities := db.authorities.update (fun a => a.authorityId = authorityId) fun a =>
            { a with status := .disabled, version := a.version + 1, updatedAt := now } }
      let db ← revokeAll actor organizationId now db affected
      let (_, db) ← appendAuditEvent db organizationId .authorityDisabled
        actor.authorizationHash authorityId.text
        (w11Payload [("authority_id", .id authorityId),
          ("approval_role", .str record.role.value),
          ("version", .num record.version)]) now
      .ok (.ok record,
        { db := db
          vault := affected.foldl (fun vault grant => vault.discard grant.grantId)
            plane.vault })

/-! ## Execution gate -/

structure GateRequest where
  taskId : String
  stepId : String
  actionType : String
  parameters : List (String × Json)

inductive GateResponse where
  | automatic (riskLevel : RiskLevel) (parameterHash : Digest)
  | waitingApproval (request : ApprovalRequest)

/-- A pending request of `actor`, expiring after `REQUEST_TTL`. -/
def newRequest (requestId : RequestId) (actor : ActorContext) (organizationId : OrganizationId)
    (taskId stepId actionType : String) (evaluation : RiskEvaluation) (auditSequence : Nat)
    (now : Time) : ApprovalRequest where
  requestId := requestId
  organizationId := organizationId
  taskId := taskId
  stepId := stepId
  actionType := actionType
  parameterHash := evaluation.parameterHash
  riskLevel := evaluation.riskLevel
  requesterUserId := actor.userId
  executorUserId := actor.userId
  requiredRoles := evaluation.requiredRoles
  status := .pending
  version := 1
  expiresAt := now + requestTtl
  closedReason := none
  auditSequence := auditSequence
  createdAt := now
  updatedAt := now

def riskFields (actionType : String) (evaluation : RiskEvaluation) : List (String × Json) :=
  [("action_type", .str actionType),
    ("risk_level", .str evaluation.riskLevel.value),
    ("parameter_hash", .digest evaluation.parameterHash)]

/-- `create_execution_gate`. -/
def createExecutionGate (actor : ActorContext) (organizationId : OrganizationId)
    (payload : GateRequest) (now : Time) (plane : Plane) : Except Failure (Outcome GateResponse) :=
  if actor.organizationId ≠ organizationId then .error .resourceNotFound
  else do
    let evaluation ← evaluateRisk payload.actionType payload.parameters
      (riskFacts plane.db organizationId payload.actionType payload.parameters)
    let fields := riskFields payload.actionType evaluation
    let (_, db) ← appendAuditEvent plane.db organizationId .riskClassified
      actor.authorizationHash payload.actionType (w11Payload fields) now
    if evaluation.riskLevel = .L4 then
      let (_, db) ← appendAuditEvent db organizationId .l4Denied actor.authorizationHash
        payload.actionType
        (w11Payload (fields ++
          [("reason", .str "permanently_denied"), ("http_status", .num 403)])) now
      .ok (.error .riskDenied, { plane with db := db })
    else if evaluation.riskLevel = .L0 ∨ evaluation.riskLevel = .L1 then
      let (_, db) ← appendAuditEvent db organizationId .executionStarted
        actor.authorizationHash payload.actionType (w11Payload fields) now
      let (_, db) ← appendAuditEvent db organizationId .executionSucceeded
        actor.authorizationHash payload.actionType (w11Payload fields) now
      .ok (.ok (.automatic evaluation.riskLevel evaluation.parameterHash),
        { plane with db := db })
    else
      let requestId := db.freshRequestId
      let (sequence, db) ← appendAuditEvent db organizationId .approvalRequested
        actor.authorizationHash requestId.text
        (w11Payload (fields ++
          [("request_id", .id requestId),
            ("request_status", .str "pending"),
            ("version", .num 1)])) now
      let request := newRequest requestId actor organizationId payload.taskId payload.stepId
        payload.actionType evaluation sequence now
      let db ← db.insertRequest request
      .ok (.ok (.waitingApproval request), { plane with db := db })

/-! ## Decisions -/

/-- The user is active with an active membership that is not an auditor's, in an active
organization. -/
def activeMember (db : Db) (organizationId : OrganizationId) (userId : UserId) : Bool :=
  (db.directory.users.one? fun u =>
    u.organizationId = organizationId ∧ u.userId = userId ∧ u.status = .active).isSome &&
  (db.directory.memberships.one? fun m => m.organizationId = organizationId ∧
    m.userId = userId ∧ m.status = .active ∧ m.role ≠ .auditor).isSome &&
  (db.directory.organizations.one? fun o =>
    o.organizationId = organizationId ∧ o.status = .active).isSome

/-- `ORDER BY role, authority_id`. -/
def authorityBefore (a b : ApprovalAuthority) : Prop :=
  a.role.value < b.role.value ∨ a.role = b.role ∧ a.authorityId.token ≤ b.authorityId.token

instance (a b : ApprovalAuthority) : Decidable (authorityBefore a b) := by
  unfold authorityBefore
  infer_instance

/-- `_current_actor_authorities`. -/
def currentActorAuthorities (db : Db) (actor : ActorContext) (required : List ApprovalRole) :
    List ApprovalAuthority :=
  if actor.role = .auditor then []
  else
    (db.authorities.select fun a =>
      decide (a.organizationId = actor.organizationId ∧ a.userId = actor.userId ∧
        a.status = .active ∧ a.role ∈ required) &&
      activeMember db actor.organizationId actor.userId).insertionSort authorityBefore

/-- `ORDER BY approval_role, decision_id`. -/
def decisionBefore (a b : ApprovalDecision) : Prop :=
  a.approvalRole.value < b.approvalRole.value ∨
    a.approvalRole = b.approvalRole ∧ a.decisionId.token ≤ b.decisionId.token

instance (a b : ApprovalDecision) : Decidable (decisionBefore a b) := by
  unfold decisionBefore
  infer_instance

/-- `_approved_decisions`. -/
def approvedDecisions (db : Db) (organizationId : OrganizationId) (requestId : RequestId) :
    List ApprovalDecision :=
  (db.decisions.select fun d => d.organizationId = organizationId ∧ d.requestId = requestId ∧
    d.decision = .approved).insertionSort decisionBefore

/-- The items that `_approval_set_hash` hashes, with the authority versions of `db`. -/
def approvalItems (db : Db) (organizationId : OrganizationId) :
    List ApprovalDecision → Except Failure (List Json)
  | [] => .ok []
  | decision :: rest =>
    match db.authorities.one? fun a =>
        a.organizationId = organizationId ∧ a.authorityId = decision.authorityId with
    | none => .error (.approvalStateConflict "approval authority disappeared")
    | some authority => do
      let items ← approvalItems db organizationId rest
      .ok (.obj [("decision_id", .id decision.decisionId),
        ("approver_user_id", .id decision.approverUserId),
        ("authority_id", .id decision.authorityId),
        ("approval_role", .str decision.approvalRole.value),
        ("authority_version", .num authority.version)] :: items)

/-- `_approval_set_hash`; the decisions come ordered by role, which is the order that `sorted`
keeps. -/
def approvalSetHash (db : Db) (organizationId : OrganizationId)
    (decisions : List ApprovalDecision) : Except Failure Digest := do
  let items ← approvalItems db organizationId decisions
  .ok (stableHash (.obj
    [("schema_version", .str "w11-required-approval-set/1.0"), ("approvals", .arr items)]))

/-- Equality of two role sets. -/
def sameRoles (a b : List ApprovalRole) : Prop :=
  (.manager ∈ a ↔ .manager ∈ b) ∧ (.security ∈ a ↔ .security ∈ b)

instance (a b : List ApprovalRole) : Decidable (sameRoles a b) := by
  unfold sameRoles
  infer_instance

structure DecisionCreate where
  decision : DecisionValue
  reason : ApprovalReason

structure DecisionResult where
  decision : ApprovalDecision
  requestId : RequestId
  grantIssued : Bool

/-- The grant that the last approval issues. -/
def newGrant (grantId : GrantId) (request : ApprovalRequest) (setHash : Digest)
    (credential : Credential) (now : Time) : ApprovalGrant where
  grantId := grantId
  organizationId := request.organizationId
  requestId := request.requestId
  taskId := request.taskId
  stepId := request.stepId
  actionType := request.actionType
  parameterHash := request.parameterHash
  riskLevel := request.riskLevel
  approvalSetHash := setHash
  executorUserId := request.executorUserId
  tokenHash := stableHashText credential.token
  nonceHash := stableHashText credential.nonce
  status := .issued
  version := 1
  expiresAt := min request.expiresAt (now + grantTtl)
  executionId := none
  authorizationHash := none
  receiptReference := none
  claimedAt := none
  consumedAt := none
  createdAt := now
  updatedAt := now

/-- `UPDATE` of the request row that the decision holds locked. -/
def writeRequest (db : Db) (request : ApprovalRequest) : Db :=
  { db with
    requests := db.requests.update (fun r => r.requestId = request.requestId) fun r =>
      { r with
        status := request.status
        version := request.version
        closedReason := request.closedReason
        auditSequence := request.auditSequence
        updatedAt := request.updatedAt } }

/-- The issue of the grant once every required role has approved. -/
def issueGrant (actor : ActorContext) (request : ApprovalRequest) (credential : Credential)
    (now : Time) (versions : Db) (db : Db) : Except Failure (Nat × GrantId × Db) := do
  let decisions := approvedDecisions db request.organizationId request.requestId
  let setHash ← approvalSetHash versions request.organizationId decisions
  let grant := newGrant db.freshGrantId request setHash credential now
  let db ← db.insertGrant grant
  let (sequence, db) ← appendAuditEvent db request.organizationId .grantIssued
    actor.authorizationHash grant.grantId.text
    (w11Payload [("request_id", .id request.requestId),
      ("grant_id", .id grant.grantId),
      ("grant_status", .str "issued"),
      ("risk_level", .str request.riskLevel.value),
      ("parameter_hash", .digest request.parameterHash),
      ("version", .num 1)]) now
  .ok (sequence, grant.grantId, db)

/-- The part of `decide_request` after its checks: the decision under `authority`, and the grant
when it is the last approval.  `versions` is the state that the approval-set hash reads. -/
def recordDecision (actor : ActorContext) (request : ApprovalRequest) (expectedVersion : Nat)
    (payload : DecisionCreate) (authority : ApprovalAuthority) (prior : List ApprovalDecision)
    (credential : Credential) (now : Time) (versions : Db) (plane : Plane) :
    Except Failure (Outcome DecisionResult) := do
  let db := plane.db
  let decisionId := db.freshDecisionId
  let (sequence, db) ← appendAuditEvent db request.organizationId
    (if payload.decision = .approved then .approvalApproved else .approvalRejected)
    actor.authorizationHash request.requestId.text
    (w11Payload [("request_id", .id request.requestId),
      ("decision_id", .id decisionId),
      ("authority_id", .id authority.authorityId),
      ("approval_role", .str authority.role.value),
      ("action_type", .str request.actionType),
      ("parameter_hash", .digest request.parameterHash),
      ("reason", .str payload.reason.value),
      ("version", .num expectedVersion)]) now
  let decision : ApprovalDecision :=
    { decisionId := decisionId
      organizationId := request.organizationId
      requestId := request.requestId
      decision := payload.decision
      approverUserId := actor.userId
      authorityId := authority.authorityId
      approvalRole := authority.role
      requestVersion := expectedVersion
      actionType := request.actionType
      parameterHash := request.parameterHash
      reason := payload.reason
      auditSequence := sequence
      createdAt := now }
  let db ← db.insertDecision decision
  let request := { request with auditSequence := sequence }
  if payload.decision = .rejected then
    let request := { request with
      status := RequestStatus.rejected, closedReason := some payload.reason }
    .ok (.ok ⟨decision, request.requestId, false⟩,
      { plane with db := writeRequest db request })
  else
    let approvedRoles :=
      (prior.filter fun d => d.decision = .approved).map (·.approvalRole) ++ [authority.role]
    if sameRoles approvedRoles request.requiredRoles then do
      let request := { request with status := RequestStatus.approved }
      let (issued, grantId, db) ← issueGrant actor request credential now versions db
      let request := { request with auditSequence := issued }
      let vault ← plane.vault.put grantId credential
      .ok (.ok ⟨decision, request.requestId, true⟩, ⟨writeRequest db request, vault⟩)
    else
      .ok (.ok ⟨decision, request.requestId, false⟩,
        { plane with db := writeRequest db request })

/-- `decide_request`; the authorities of the actor are read from `seen`, and the authority
versions of the approval set from `versions`. -/
def decideRequest (actor : ActorContext) (organizationId : OrganizationId)
    (requestId : RequestId) (expectedVersion : Nat) (payload : DecisionCreate)
    (credential : Credential) (now : Time) (seen versions : Db) (plane : Plane) :
    Except Failure (Outcome DecisionResult) :=
  let db := plane.db
  if actor.organizationId ≠ organizationId then .error .resourceNotFound
  else if (db.requests.one? fun r =>
      r.organizationId = organizationId ∧ r.requestId = requestId).isNone then
    .error .resourceNotFound
  else
    match db.requests.one? fun r => r.organizationId = organizationId ∧
        r.requestId = requestId ∧ r.version = expectedVersion ∧ r.status = .pending with
    | none => .error .preconditionFailed
    | some pending =>
      let request := { pending with version := pending.version + 1, updatedAt := now }
      if request.expiresAt ≤ now then do
        let (sequence, db) ← appendAuditEvent db organizationId .requestExpired
          actor.authorizationHash requestId.text
          (w11Payload [("request_id", .id requestId),
            ("request_status", .str "expired"),
            ("reason", .str ApprovalReason.requestExpired.value),
            ("version", .num request.version)]) now
        .ok (.error (.approvalStateConflict "approval request expired"),
          { plane with
            db := writeRequest db
              { request with
                status := .expired
                closedReason := some .requestExpired
                auditSequence := sequence } })
      else if actor.userId = request.requesterUserId ∨ actor.userId = request.executorUserId then
        .error (.authorizationDenied "self_approval_denied")
      else
        let prior := db.decisions.select fun d =>
          d.organizationId = organizationId ∧ d.requestId = requestId
        if prior.any fun d => d.approverUserId = actor.userId then
          .error (.approvalStateConflict "duplicate decision")
        else
          let undecided := request.requiredRoles.filter fun role =>
            !prior.any fun d => d.approvalRole = role
          match currentActorAuthorities seen actor undecided with
          | [authority] =>
            recordDecision actor request expectedVersion payload authority prior credential now
              versions plane
          | _ => .error (.authorizationDenied "approval_authority_denied")

/-! ## Closing -/

/-- `close_request`; `issued` is what its unlocked read of the issued grants returned. -/
def closeRequest (actor : ActorContext) (organizationId : OrganizationId)
    (requestId : RequestId) (expectedVersion : Nat) (reason : ApprovalReason)
    (invalidate : Bool) (now : Time) (issued : List ApprovalGrant) (plane : Plane) :
    Except Failure (Outcome ApprovalRequest) :=
  let db := plane.db
  if actor.organizationId ≠ organizationId then .error .resourceNotFound
  else
    match db.requests.one? fun r =>
        r.organizationId = organizationId ∧ r.requestId = requestId with
    | none => .error .resourceNotFound
    | some current =>
      if !invalidate && decide (actor.role ≠ .organizationAdmin) &&
          decide (current.requesterUserId ≠ actor.userId) then
        .error (.authorizationDenied "request_cancel_denied")
      else
        match db.requests.one? fun r => r.organizationId = organizationId ∧
            r.requestId = requestId ∧ r.version = expectedVersion ∧
            (r.status = .pending ∨ r.status = .approved) with
        | none => .error .preconditionFailed
        | some record => do
          let target : RequestStatus := if invalidate then .invalidated else .cancelled
          let record := { record with
            status := target
            closedReason := some reason
            version := record.version + 1
            updatedAt := now }
          let (sequence, db) ← appendAuditEvent db organizationId
            (if invalidate then .requestInvalidated else .requestCancelled)
            actor.authorizationHash requestId.text
            (w11Payload [("request_id", .id requestId),
              ("request_status", .str target.value),
              ("reason", .str reason.value),
              ("version", .num record.version)]) now
          let record := { record with auditSequence := sequence }
          let db := writeRequest db record
          let db :=
            { db with
              grants := db.grants.update
                (fun g => issued.any fun grant => grant.grantId = g.grantId) fun g =>
                { g with status := .revoked, version := g.version + 1, updatedAt := now } }
          .ok (.ok record,
            { db := db
              vault := issued.foldl (fun vault grant => vault.discard grant.grantId)
                plane.vault })

/-- The unlocked read of `close_request`. -/
def issuedGrants (db : Db) (organizationId : OrganizationId) (requestId : RequestId) :
    List ApprovalGrant :=
  db.grants.select fun g => g.organizationId = organizationId ∧ g.requestId = requestId ∧
    g.status = .issued

/-! ## Claims -/

/-- The query that `_active_approval_set` runs for one decision. -/
def activeApprover (db : Db) (request : ApprovalRequest) (decision : ApprovalDecision) : Bool :=
  (db.authorities.one? fun a => a.organizationId = request.organizationId ∧
    a.authorityId = decision.authorityId ∧ a.userId = decision.approverUserId ∧
    a.role = decision.approvalRole ∧ a.status = .active).isSome &&
  activeMember db request.organizationId decision.approverUserId

/-- The decisions cover exactly the required roles, each by a different approver. -/
def coversRoles (request : ApprovalRequest) (decisions : List ApprovalDecision) : Prop :=
  sameRoles (decisions.map (·.approvalRole)) request.requiredRoles ∧
    (decisions.map (·.approverUserId)).Nodup

instance (request : ApprovalRequest) (decisions : List ApprovalDecision) :
    Decidable (coversRoles request decisions) := by
  unfold coversRoles
  infer_instance

/-- `_active_approval_set`. -/
def activeApprovalSet (db : Db) (request : ApprovalRequest) :
    Except Failure (List ApprovalDecision × Digest) := do
  let decisions := approvedDecisions db request.organizationId request.requestId
  if ¬ coversRoles request decisions then .error .grantRejected
  else if decisions.all (activeApprover db request) then
    let setHash ← approvalSetHash db request.organizationId decisions
    .ok (decisions, setHash)
  else .error .grantRejected

structure GrantClaim where
  taskId : String
  stepId : String
  actionType : String
  parameters : List (String × Json)

structure ExecutionClaim where
  executionId : ExecutionId
  grantId : GrantId
  requestId : RequestId
  taskId : String
  stepId : String
  actionType : String
  parameterHash : Digest
  authorizationHash : Digest
  grantVersion : Nat
  claimedAt : Time

/-- The conditions of `claim_grant` on the rows as it loaded them. -/
def claimable (payload : GrantClaim) (evaluation : RiskEvaluation) (request : ApprovalRequest)
    (grant : ApprovalGrant) (decisions : List ApprovalDecision) (setHash : Digest)
    (credential : Credential) (now : Time) : Prop :=
  request.status = .approved ∧ grant.status = .issued ∧
  now < request.expiresAt ∧ now < grant.expiresAt ∧
  payload.taskId = request.taskId ∧ payload.stepId = request.stepId ∧
  payload.actionType = request.actionType ∧
  evaluation.parameterHash = request.parameterHash ∧
  evaluation.riskLevel = request.riskLevel ∧
  grant.taskId = request.taskId ∧ grant.stepId = request.stepId ∧
  grant.actionType = request.actionType ∧ grant.parameterHash = request.parameterHash ∧
  grant.approvalSetHash = setHash ∧
  grant.tokenHash = stableHashText credential.token ∧
  grant.nonceHash = stableHashText credential.nonce ∧
  decisions.length = request.requiredRoles.length

instance (payload : GrantClaim) (evaluation : RiskEvaluation) (request : ApprovalRequest)
    (grant : ApprovalGrant) (decisions : List ApprovalDecision) (setHash : Digest)
    (credential : Credential) (now : Time) :
    Decidable (claimable payload evaluation request grant decisions setHash credential now) := by
  unfold claimable
  infer_instance

abbrev OnClaim := ApprovalRequest → ApprovalGrant → ExecutionClaim → Db → Except Failure Db

/-- The compare-and-set on the grant with everything that commits with it. -/
def commitClaim (actor : ActorContext) (request : ApprovalRequest) (grant : ApprovalGrant)
    (now : Time) (onClaim : Option OnClaim) (db : Db) :
    Except Failure (ExecutionClaim × Db) := do
  let organizationId := request.organizationId
  match db.grants.one? fun g => g.organizationId = organizationId ∧
      g.grantId = grant.grantId ∧ g.status = .issued ∧ g.version = grant.version ∧
      now < g.expiresAt with
  | none => .error .grantRejected
  | some current => do
    let executionId := db.freshExecutionId
    let claimed := { current with
      status := GrantStatus.claimed
      version := current.version + 1
      executionId := some executionId
      authorizationHash := some actor.authorizationHash
      claimedAt := some now
      updatedAt := now }
    let db :=
      { db with
        grants := db.grants.update (fun g => g.grantId = grant.grantId) fun g =>
          { g with
            status := .claimed
            version := g.version + 1
            executionId := some executionId
            authorizationHash := some actor.authorizationHash
            claimedAt := some now
            updatedAt := now } }
    let (sequence, db) ← appendAuditEvent db organizationId .grantClaimed
      actor.authorizationHash grant.grantId.text
      (w11Payload [("request_id", .id request.requestId),
        ("grant_id", .id grant.grantId),
        ("grant_status", .str "claimed"),
        ("execution_id", .id executionId),
        ("parameter_hash", .digest request.parameterHash),
        ("authorization_hash", .digest actor.authorizationHash),
        ("version", .num claimed.version)]) now
    let (_, db) ← appendAuditEvent db organizationId .executionStarted
      actor.authorizationHash executionId.text
      (w11Payload [("request_id", .id request.requestId),
        ("grant_id", .id grant.grantId),
        ("execution_id", .id executionId),
        ("action_type", .str request.actionType),
        ("parameter_hash", .digest request.parameterHash)]) now
    -- The version is the loaded one plus one; the row is not compared again.
    let request := { request with
      status := RequestStatus.claimed
      version := request.version + 1
      updatedAt := now
      auditSequence := sequence }
    let db := writeRequest db request
    let claim : ExecutionClaim :=
      { executionId := executionId
        grantId := grant.grantId
        requestId := request.requestId
        taskId := request.taskId
        stepId := request.stepId
        actionType := request.actionType
        parameterHash := request.parameterHash
        authorizationHash := actor.authorizationHash
        grantVersion := claimed.version
        claimedAt := now }
    match onClaim with
    | none => .ok (claim, db)
    | some onClaim => do
      let db ← onClaim request claimed claim db
      .ok (claim, db)

/-- The checks of `claim_grant` before its compare-and-set. -/
def claimChecks (organizationId : OrganizationId) (payload : GrantClaim)
    (request : ApprovalRequest) (grant : ApprovalGrant) (now : Time) (plane : Plane) :
    Except Failure Unit :=
  match plane.vault.peek grant.grantId with
  | none => .error .grantRejected
  | some credential => do
    let evaluation ← evaluateRisk payload.actionType payload.parameters
      (riskFacts plane.db organizationId payload.actionType payload.parameters)
    let (decisions, setHash) ← activeApprovalSet plane.db request
    if claimable payload evaluation request grant decisions setHash credential now then .ok ()
    else .error .grantRejected

def grantFields (grant : ApprovalGrant) : List (String × Json) :=
  [("grant_id", .id grant.grantId),
    ("grant_status", .str grant.status.value),
    ("parameter_hash", .digest grant.parameterHash)]

def rejectionPayload (requestId : RequestId) (fields : List (String × Json)) :
    List (String × Json) :=
  w11Payload ([("request_id", .id requestId)] ++ fields ++
    [("reason", .str "grant_rejected"), ("http_status", .num 409)])

/-- The rows that `claim_grant` loads without a lock. -/
structure ClaimRows where
  request : Option ApprovalRequest
  grant : Option ApprovalGrant
  production : Bool

def claimRows (db : Db) (organizationId : OrganizationId) (requestId : RequestId) :
    ClaimRows where
  request := db.requests.one? fun r =>
    r.organizationId = organizationId ∧ r.requestId = requestId
  grant := db.grants.one? fun g =>
    g.organizationId = organizationId ∧ g.requestId = requestId
  production := (db.runs.one? fun r => r.organizationId = organizationId ∧
    r.approvalRequestId = some requestId).isSome

/-- The checks on the loaded rows; they are not reached when a row is missing. -/
def rowChecks (organizationId : OrganizationId) (payload : GrantClaim) (now : Time)
    (rows : ClaimRows) (plane : Plane) : Except Failure Unit :=
  match rows.request, rows.grant with
  | some request, some grant => claimChecks organizationId payload request grant now plane
  | _, _ => .ok ()

/-- `claim_grant` on the loaded `rows` and the result of the `checks` on them.  It is called with
`plane` as the uncommitted state of a transaction that began at `committed`, which is what a
rejection inside the `try` rolls back to. -/
def claimGrant (actor : ActorContext) (organizationId : OrganizationId)
    (requestId : RequestId) (now : Time) (onClaim : Option OnClaim) (rows : ClaimRows)
    (checks : Except Failure Unit) (committed : Db) (plane : Plane) :
    Except Failure (Outcome ExecutionClaim) :=
  if actor.organizationId ≠ organizationId then .error .resourceNotFound
  else
    match rows.request, rows.grant with
    | some request, some grant =>
      if actor.userId ≠ request.executorUserId ∨ (rows.production ∧ onClaim.isNone) then do
        let (_, db) ← appendAuditEvent plane.db organizationId .grantRejected
          actor.authorizationHash grant.grantId.text
          (rejectionPayload requestId (grantFields grant)) now
        .ok (.error .grantRejected, { plane with db := db })
      else
        match (do let _ ← checks; commitClaim actor request grant now onClaim plane.db) with
        | .ok (claim, db) => .ok (.ok claim, ⟨db, plane.vault.discard grant.grantId⟩)
        | .error e =>
          if e = .grantRejected ∨ e = .riskSchemaRejected then
            -- The rollback refreshes the grant; a failure to audit is swallowed.
            let vault := plane.vault.discard grant.grantId
            let grant := (committed.grants.get? grant.grantId).getD grant
            match appendAuditEvent committed organizationId .grantRejected
                actor.authorizationHash grant.grantId.text
                (rejectionPayload requestId (grantFields grant)) now with
            | .ok (_, db) => .ok (.error e, ⟨db, vault⟩)
            | .error _ => .ok (.error e, ⟨committed, vault⟩)
          else .error e
    | _, grant => do
      let subject := match grant with
        | some grant => grant.grantId.text
        | none => requestId.text
      let fields := match grant with
        | some grant => grantFields grant
        | none => []
      let (_, db) ← appendAuditEvent plane.db organizationId .grantRejected
        actor.authorizationHash subject (rejectionPayload requestId fields) now
      .ok (.error .grantRejected, { plane with db := db })

/-- `resume_execution_claim`. -/
def resumeExecutionClaim (actor : ActorContext) (organizationId : OrganizationId)
    (executionId : ExecutionId) (parameterHash authorizationHash : Digest) (now : Time)
    (plane : Plane) : Except Failure (Outcome ExecutionClaim) :=
  let db := plane.db
  if actor.organizationId ≠ organizationId then .error .resourceNotFound
  else
    match db.grants.one? fun g => g.organizationId = organizationId ∧
        g.executionId = some executionId ∧ g.status = .claimed with
    | none => .error .grantRejected
    | some grant =>
      match grant.claimedAt with
      | none => .error .grantRejected
      | some claimedAt =>
        if grant.executorUserId ≠ actor.userId ∨ grant.parameterHash ≠ parameterHash ∨
            grant.authorizationHash ≠ some authorizationHash ∨
            actor.authorizationHash ≠ authorizationHash then
          .error .grantRejected
        else
          match db.requests.one? fun r => r.organizationId = organizationId ∧
              r.requestId = grant.requestId ∧ r.status = .claimed with
          | none => .error .grantRejected
          | some request => do
            let _ ← activeApprovalSet db request
            let (_, db) ← appendAuditEvent db organizationId .recoveryResumed
              actor.authorizationHash executionId.text
              (w11Payload [("request_id", .id request.requestId),
                ("grant_id", .id grant.grantId),
                ("execution_id", .id executionId),
                ("parameter_hash", .digest parameterHash),
                ("authorization_hash", .digest authorizationHash)]) now
            .ok (.ok
              { executionId := executionId
                grantId := grant.grantId
                requestId := request.requestId
                taskId := request.taskId
                stepId := request.stepId
                actionType := request.actionType
                parameterHash := parameterHash
                authorizationHash := authorizationHash
                grantVersion := grant.version
                claimedAt := claimedAt },
              { plane with db := db })

/-- `complete_execution_claim`. -/
def completeExecutionClaim (actor : ActorContext) (organizationId : OrganizationId)
    (executionId : ExecutionId) (receiptReference : String) (now : Time) (plane : Plane) :
    Except Failure (Outcome Unit) :=
  let db := plane.db
  if actor.organizationId ≠ organizationId then .error .resourceNotFound
  else if ¬ (8 ≤ textLength receiptReference ∧ textLength receiptReference ≤ 80 ∧
      startsWith (utf8 receiptReference) (utf8 "rcp_")) then
    .error .grantRejected
  else
    match db.grants.one? fun g => g.organizationId = organizationId ∧
        g.executionId = some executionId ∧ g.executorUserId = actor.userId ∧
        g.status = .claimed with
    | none => .error .grantRejected
    | some grant =>
      match db.requests.one? fun r => r.organizationId = organizationId ∧
          r.requestId = grant.requestId ∧ r.status = .claimed with
      | none => .error .grantRejected
      | some request => do
        let db :=
          { db with
            grants := db.grants.update (fun g => g.grantId = grant.grantId) fun g =>
              { g with
                status := .consumed
                version := g.version + 1
                receiptReference := some receiptReference
                consumedAt := some now
                updatedAt := now } }
        let (sequence, db) ← appendAuditEvent db organizationId .grantConsumed
          actor.authorizationHash grant.grantId.text
          (w11Payload [("request_id", .id request.requestId),
            ("grant_id", .id grant.grantId),
            ("grant_status", .str "consumed"),
            ("execution_id", .id executionId),
            ("receipt_reference", .str receiptReference),
            ("version", .num (grant.version + 1))]) now
        let (_, db) ← appendAuditEvent db organizationId .executionSucceeded
          actor.authorizationHash executionId.text
          (w11Payload [("request_id", .id request.requestId),
            ("grant_id", .id grant.grantId),
            ("execution_id", .id executionId),
            ("receipt_reference", .str receiptReference),
            ("action_type", .str request.actionType),
            ("parameter_hash", .digest request.parameterHash)]) now
        let db := writeRequest db
          { request with
            status := .consumed
            version := request.version + 1
            updatedAt := now
            auditSequence := sequence }
        .ok (.ok (), { plane with db := db })

end FlowPilot.Control
