import FlowPilot.Canonical

/-! Closed enumerations of the control schema and the text each value is stored as. -/

namespace FlowPilot

inductive Role where
  | organizationAdmin | operator | auditor
  deriving DecidableEq, Repr

def Role.value : Role → String
  | organizationAdmin => "organization_admin" | operator => "operator" | auditor => "auditor"

/-- Status of organizations, users, identities and memberships. -/
inductive ActiveStatus where
  | active | disabled
  deriving DecidableEq, Repr

inductive ApprovalRole where
  | manager | security
  deriving DecidableEq, Repr

def ApprovalRole.value : ApprovalRole → String
  | manager => "manager" | security => "security"

inductive AuthorityStatus where
  | active | disabled | tombstone
  deriving DecidableEq, Repr

inductive RiskLevel where
  | L0 | L1 | L2 | L3 | L4
  deriving DecidableEq, Repr

def RiskLevel.value : RiskLevel → String
  | L0 => "L0" | L1 => "L1" | L2 => "L2" | L3 => "L3" | L4 => "L4"

inductive RequestStatus where
  | pending | approved | rejected | cancelled | expired | invalidated | claimed | consumed
  | failed
  deriving DecidableEq, Repr

def RequestStatus.value : RequestStatus → String
  | pending => "pending" | approved => "approved" | rejected => "rejected"
  | cancelled => "cancelled" | expired => "expired" | invalidated => "invalidated"
  | claimed => "claimed" | consumed => "consumed" | failed => "failed"

inductive DecisionValue where
  | approved | rejected
  deriving DecidableEq, Repr

def DecisionValue.value : DecisionValue → String
  | approved => "approved" | rejected => "rejected"

inductive ApprovalReason where
  | policySatisfied | policyRejected | requesterCancelled | parametersChanged
  | authorityInactive | requestExpired
  deriving DecidableEq, Repr

def ApprovalReason.value : ApprovalReason → String
  | policySatisfied => "policy_satisfied" | policyRejected => "policy_rejected"
  | requesterCancelled => "requester_cancelled" | parametersChanged => "parameters_changed"
  | authorityInactive => "authority_inactive" | requestExpired => "request_expired"

inductive GrantStatus where
  | issued | claimed | consumed | revoked | expired | failed
  deriving DecidableEq, Repr

def GrantStatus.value : GrantStatus → String
  | issued => "issued" | claimed => "claimed" | consumed => "consumed" | revoked => "revoked"
  | expired => "expired" | failed => "failed"

inductive RunStatus where
  | waitingApproval | queued | leased | running | recovering | verifying | finishedUngraded
  | failed | cancelled | expired
  deriving DecidableEq, Repr

def RunStatus.value : RunStatus → String
  | waitingApproval => "waiting_approval" | queued => "queued" | leased => "leased"
  | running => "running" | recovering => "recovering" | verifying => "verifying"
  | finishedUngraded => "finished_ungraded" | failed => "failed" | cancelled => "cancelled"
  | expired => "expired"

def RunStatus.terminal (status : RunStatus) : Prop :=
  status = finishedUngraded ∨ status = failed ∨ status = cancelled ∨ status = expired

instance (status : RunStatus) : Decidable status.terminal := by
  unfold RunStatus.terminal
  infer_instance

inductive TerminalReason where
  | agentFinished | agentFailed | authorizationInvalid | queueExpired | leaseExhausted
  | cancelledByActor | workflowRejected | receiptInvalid | workerDrained
  | dependencyUnavailable
  deriving DecidableEq, Repr

def TerminalReason.value : TerminalReason → String
  | agentFinished => "agent_finished" | agentFailed => "agent_failed"
  | authorizationInvalid => "authorization_invalid" | queueExpired => "queue_expired"
  | leaseExhausted => "lease_exhausted" | cancelledByActor => "cancelled_by_actor"
  | workflowRejected => "workflow_rejected" | receiptInvalid => "receipt_invalid"
  | workerDrained => "worker_drained" | dependencyUnavailable => "dependency_unavailable"

inductive Process where
  | joiner | mover | leaver
  deriving DecidableEq, Repr

def Process.value : Process → String
  | joiner => "joiner" | mover => "mover" | leaver => "leaver"

inductive Category where
  | joiner | mover | leaver
  deriving DecidableEq, Repr

def Category.value : Category → String
  | joiner => "standard_joiner" | mover => "standard_mover" | leaver => "standard_leaver"

/-- The task identifiers that `ck_w12_run_task` admits. -/
inductive TaskId where
  | joiner001v1 | joiner001v2 | joiner002v1 | joiner002v2
  | mover001v1 | mover001v2 | leaver001v1 | leaver001v2
  deriving DecidableEq, Repr

def TaskId.value : TaskId → String
  | joiner001v1 => "w7-jml-joiner-001-v1" | joiner001v2 => "w7-jml-joiner-001-v2"
  | joiner002v1 => "w7-jml-joiner-002-v1" | joiner002v2 => "w7-jml-joiner-002-v2"
  | mover001v1 => "w7-jml-mover-001-v1" | mover001v2 => "w7-jml-mover-001-v2"
  | leaver001v1 => "w7-jml-leaver-001-v1" | leaver001v2 => "w7-jml-leaver-001-v2"

inductive OutboxStatus where
  | ready | leased | dispatched | closed | cancelled | expired | failed
  deriving DecidableEq, Repr

def OutboxStatus.value : OutboxStatus → String
  | ready => "ready" | leased => "leased" | dispatched => "dispatched" | closed => "closed"
  | cancelled => "cancelled" | expired => "expired" | failed => "failed"

/-- The statuses that count towards a partition's backlog. -/
def OutboxStatus.active (status : OutboxStatus) : Prop :=
  status = ready ∨ status = leased ∨ status = dispatched

instance (status : OutboxStatus) : Decidable status.active := by
  unfold OutboxStatus.active
  infer_instance

inductive LeaseStatus where
  | active | released | expired | completed | failed
  deriving DecidableEq, Repr

def LeaseStatus.value : LeaseStatus → String
  | active => "active" | released => "released" | expired => "expired"
  | completed => "completed" | failed => "failed"

inductive PartitionStatus where
  | ready | empty | disabled
  deriving DecidableEq, Repr

inductive RouteClass where
  | submit | read | mutate
  deriving DecidableEq, Repr

inductive ScopeKind where
  | actor | organization
  deriving DecidableEq, Repr

/-- The event types that `ck_w11_audit_event_type` admits. -/
inductive AuditEventType where
  | riskClassified | l4Denied | approvalRequested | approvalApproved | approvalRejected
  | requestCancelled | requestExpired | requestInvalidated | grantIssued | grantClaimed
  | grantConsumed | grantRejected | executionStarted | executionSucceeded | executionFailed
  | recoveryResumed | authorityDisabled | auditVerified | runWaitingApproval | runQueued
  | runLeased | runStarted | runRecovered | runVerifying | runFinishedUngraded | runFailed
  | runCancelled | runExpired | admissionRejected | backpressureRejected | rateLimited
  | leaseHeartbeat | leaseReleased | staleFenceRejected | workflowDeduplicated
  deriving DecidableEq, Repr

def AuditEventType.value : AuditEventType → String
  | riskClassified => "risk_classified" | l4Denied => "l4_denied"
  | approvalRequested => "approval_requested" | approvalApproved => "approval_approved"
  | approvalRejected => "approval_rejected" | requestCancelled => "request_cancelled"
  | requestExpired => "request_expired" | requestInvalidated => "request_invalidated"
  | grantIssued => "grant_issued" | grantClaimed => "grant_claimed"
  | grantConsumed => "grant_consumed" | grantRejected => "grant_rejected"
  | executionStarted => "execution_started" | executionSucceeded => "execution_succeeded"
  | executionFailed => "execution_failed" | recoveryResumed => "recovery_resumed"
  | authorityDisabled => "authority_disabled" | auditVerified => "audit_verified"
  | runWaitingApproval => "run_waiting_approval" | runQueued => "run_queued"
  | runLeased => "run_leased" | runStarted => "run_started" | runRecovered => "run_recovered"
  | runVerifying => "run_verifying" | runFinishedUngraded => "run_finished_ungraded"
  | runFailed => "run_failed" | runCancelled => "run_cancelled" | runExpired => "run_expired"
  | admissionRejected => "admission_rejected"
  | backpressureRejected => "backpressure_rejected" | rateLimited => "rate_limited"
  | leaseHeartbeat => "lease_heartbeat" | leaseReleased => "lease_released"
  | staleFenceRejected => "stale_fence_rejected"
  | workflowDeduplicated => "workflow_deduplicated"

inductive TracePhase where
  | admission | approval | outbox | lease | dispatch | workflow | recovery | planning
  | browser | receipt | grader | audit | cost | terminal | replay | dashboard
  deriving DecidableEq, Repr

def TracePhase.value : TracePhase → String
  | admission => "admission" | approval => "approval" | outbox => "outbox" | lease => "lease"
  | dispatch => "dispatch" | workflow => "workflow" | recovery => "recovery"
  | planning => "planning" | browser => "browser" | receipt => "receipt"
  | grader => "grader" | audit => "audit" | cost => "cost" | terminal => "terminal"
  | replay => "replay" | dashboard => "dashboard"

inductive TraceStatus where
  | accepted | waiting | queued | leased | running | recovered | released | succeeded
  | failed | cancelled | rejected | pending | exported
  deriving DecidableEq, Repr

def TraceStatus.value : TraceStatus → String
  | accepted => "accepted" | waiting => "waiting" | queued => "queued" | leased => "leased"
  | running => "running" | recovered => "recovered" | released => "released"
  | succeeded => "succeeded" | failed => "failed" | cancelled => "cancelled"
  | rejected => "rejected" | pending => "pending" | exported => "exported"

inductive FailureCategory where
  | none | authn | authz | approval | schema | rateLimit | backpressure | queueExpiry
  | leaseFence | workflowRejected | dependencyUnavailable | browserTimeout | browserError
  | planningFailure | recoveryFailure | receiptInvalid | graderVerification
  | auditVerification
  deriving DecidableEq, Repr

def FailureCategory.value : FailureCategory → String
  | none => "none" | authn => "authn" | authz => "authz" | approval => "approval"
  | schema => "schema" | rateLimit => "rate_limit" | backpressure => "backpressure"
  | queueExpiry => "queue_expiry" | leaseFence => "lease_fence"
  | workflowRejected => "workflow_rejected"
  | dependencyUnavailable => "dependency_unavailable" | browserTimeout => "browser_timeout"
  | browserError => "browser_error" | planningFailure => "planning_failure"
  | recoveryFailure => "recovery_failure" | receiptInvalid => "receipt_invalid"
  | graderVerification => "grader_verification" | auditVerification => "audit_verification"

inductive TraceReason where
  | admittedQueued | admittedWaitingApproval | approvalHandoff | outboxReady | leaseClaimed
  | leaseRecovered | leaseHeartbeat | leaseReleased | staleFenceRejected | workerDispatched
  | temporalReference | temporalDeduplicated | recoverySummary | planningSummary
  | browserStep | browserSummary | receiptRecorded | graderPending | auditReference
  | fakeCostAccounted | runFinishedUngraded | runFailed | runCancelled | runExpired
  | replayExported | dashboardExported
  deriving DecidableEq, Repr

def TraceReason.value : TraceReason → String
  | admittedQueued => "admitted_queued"
  | admittedWaitingApproval => "admitted_waiting_approval"
  | approvalHandoff => "approval_handoff" | outboxReady => "outbox_ready"
  | leaseClaimed => "lease_claimed" | leaseRecovered => "lease_recovered"
  | leaseHeartbeat => "lease_heartbeat" | leaseReleased => "lease_released"
  | staleFenceRejected => "stale_fence_rejected" | workerDispatched => "worker_dispatched"
  | temporalReference => "temporal_reference"
  | temporalDeduplicated => "temporal_deduplicated" | recoverySummary => "recovery_summary"
  | planningSummary => "planning_summary" | browserStep => "browser_step"
  | browserSummary => "browser_summary" | receiptRecorded => "receipt_recorded"
  | graderPending => "grader_pending" | auditReference => "audit_reference"
  | fakeCostAccounted => "fake_cost_accounted"
  | runFinishedUngraded => "run_finished_ungraded" | runFailed => "run_failed"
  | runCancelled => "run_cancelled" | runExpired => "run_expired"
  | replayExported => "replay_exported" | dashboardExported => "dashboard_exported"

end FlowPilot
