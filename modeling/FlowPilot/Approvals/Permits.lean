import FlowPilot.Control.Approval
import FlowPilot.Lib.Evolution
import FlowPilot.Lib.Permit

/-!
# Approval requests as one-time permits

A request together with its grant is one permit: the statuses of the two rows say how far it is,
and the execution id of the grant who took it.  Requests, decisions, grants and the vault of the
plane are what the approval operations of both services work on.
-/

open FlowPilot.Lib

namespace FlowPilot

open Control (Vault Plane Credential)

/-! ## What never changes -/

/-- What nothing changes about a request. -/
def ApprovalRequest.fixed (r : ApprovalRequest) : ApprovalRequest :=
  { r with
    status := .pending
    version := 0
    closedReason := none
    auditSequence := 0
    updatedAt := 0 }

/-- What nothing changes about a grant. -/
def ApprovalGrant.fixed (g : ApprovalGrant) : ApprovalGrant :=
  { g with
    status := .issued
    version := 0
    executionId := none
    authorizationHash := none
    receiptReference := none
    claimedAt := none
    consumedAt := none
    updatedAt := 0 }

/-- How far a request is; a version that stays pending collects decisions. -/
def RequestStatus.rank : RequestStatus → Nat
  | .pending => 0
  | .approved => 1
  | .claimed => 2
  | .rejected | .cancelled | .expired | .invalidated | .consumed | .failed => 3

def GrantStatus.rank : GrantStatus → Nat
  | .issued => 0
  | .claimed => 1
  | .consumed | .revoked | .expired | .failed => 2

/-- `r'` is what the row `r` was or became. -/
def ApprovalRequest.Later (r r' : ApprovalRequest) : Prop :=
  r'.fixed = r.fixed ∧ (r' = r ∨ r.version < r'.version ∧
    (r.status.rank < r'.status.rank ∨ r.status = .pending ∧ r'.status = .pending))

def ApprovalGrant.Later (g g' : ApprovalGrant) : Prop :=
  g'.fixed = g.fixed ∧ (g' = g ∨ g.version < g'.version ∧ g.status.rank < g'.status.rank)

theorem ApprovalRequest.Later.refl (r : ApprovalRequest) : r.Later r := ⟨rfl, .inl rfl⟩

theorem ApprovalRequest.Later.trans (a b c : ApprovalRequest) (h : a.Later b) (h' : b.Later c) :
    a.Later c := by
  obtain ⟨hfixed, hmoved⟩ := h
  obtain ⟨hfixed', hmoved'⟩ := h'
  refine ⟨hfixed'.trans hfixed, ?_⟩
  rcases hmoved with rfl | ⟨hversion, hstatus⟩
  · exact hmoved'
  · rcases hmoved' with rfl | ⟨hversion', hstatus'⟩
    · exact .inr ⟨hversion, hstatus⟩
    · refine .inr ⟨Nat.lt_trans hversion hversion', ?_⟩
      rcases hstatus with hlt | ⟨hpending, hstill⟩
      · rcases hstatus' with hlt' | ⟨hpending', hstill'⟩
        · exact .inl (Nat.lt_trans hlt hlt')
        · rw [hpending'] at hlt
          cases hlt
      · rcases hstatus' with hlt' | ⟨_, hstill'⟩
        · rw [hstill] at hlt'
          rw [hpending]
          exact .inl hlt'
        · exact .inr ⟨hpending, hstill'⟩

theorem ApprovalGrant.Later.refl (g : ApprovalGrant) : g.Later g := ⟨rfl, .inl rfl⟩

theorem ApprovalGrant.Later.trans (a b c : ApprovalGrant) (h : a.Later b) (h' : b.Later c) :
    a.Later c := by
  obtain ⟨hfixed, hmoved⟩ := h
  obtain ⟨hfixed', hmoved'⟩ := h'
  refine ⟨hfixed'.trans hfixed, ?_⟩
  rcases hmoved with rfl | ⟨hversion, hstatus⟩
  · exact hmoved'
  · rcases hmoved' with rfl | ⟨hversion', hstatus'⟩
    · exact .inr ⟨hversion, hstatus⟩
    · exact .inr ⟨Nat.lt_trans hversion hversion', Nat.lt_trans hstatus hstatus'⟩

/-- An approved request that is read later as approved has not been written in between. -/
theorem ApprovalRequest.Later.eq_of_approved {r r' : ApprovalRequest} (h : r.Later r')
    (hr : r.status = .approved) (hr' : r'.status = .approved) : r' = r := by
  rcases h.2 with hsame | ⟨_, hlt | ⟨hpending, _⟩⟩
  · exact hsame
  · rw [hr, hr'] at hlt
    exact absurd hlt (Nat.lt_irrefl _)
  · rw [hr] at hpending
    cases hpending

/-- A compare-and-set on the version finds the row that was read. -/
theorem ApprovalGrant.Later.eq_of_version {g g' : ApprovalGrant} (h : g.Later g')
    (hversion : g'.version = g.version) : g' = g := by
  rcases h.2 with hsame | ⟨hlt, _⟩
  · exact hsame
  · omega

/-! ## Permits -/

/-- The permit of a request, or `none` where request and grant contradict each other. -/
def permitOf (request : ApprovalRequest) :
    Option ApprovalGrant → Option (Permit ExecutionId)
  | none =>
    match request.status with
    | .pending => some .asked
    | .rejected | .cancelled | .expired | .invalidated => some .refused
    | .approved | .claimed | .consumed | .failed => none
  | some grant =>
    match request.status, grant.status, grant.executionId with
    | .approved, .issued, none => some .granted
    | .cancelled, .revoked, none => some .withdrawn
    | .invalidated, .revoked, none => some .withdrawn
    | .claimed, .claimed, some e => some (.taken e)
    | .consumed, .consumed, some e => some (.spent e)
    | .failed, .failed, some e => some (.failed e)
    | .cancelled, .failed, some e => some (.failed e)
    | _, _, _ => none

/-- A grant tells the statuses of its request. -/
theorem permitOf_some {r : ApprovalRequest} {g : ApprovalGrant} {p : Permit ExecutionId}
    (h : permitOf r (some g) = some p) :
    (r.status = .approved ∧ g.status = .issued ∧ g.executionId = none ∧ p = .granted) ∨
    ((r.status = .cancelled ∨ r.status = .invalidated) ∧ g.status = .revoked ∧
      g.executionId = none ∧ p = .withdrawn) ∨
    (∃ e, g.executionId = some e ∧
      ((r.status = .claimed ∧ g.status = .claimed ∧ p = .taken e) ∨
        (r.status = .consumed ∧ g.status = .consumed ∧ p = .spent e) ∨
        ((r.status = .failed ∨ r.status = .cancelled) ∧ g.status = .failed ∧
          p = .failed e))) := by
  unfold permitOf at h
  dsimp only at h
  split at h
  case h_1 hr hg he => exact .inl ⟨hr, hg, he, (Option.some.inj h).symm⟩
  case h_2 hr hg he => exact .inr (.inl ⟨.inl hr, hg, he, (Option.some.inj h).symm⟩)
  case h_3 hr hg he => exact .inr (.inl ⟨.inr hr, hg, he, (Option.some.inj h).symm⟩)
  case h_4 e hr hg he => exact .inr (.inr ⟨e, he, .inl ⟨hr, hg, (Option.some.inj h).symm⟩⟩)
  case h_5 e hr hg he =>
    exact .inr (.inr ⟨e, he, .inr (.inl ⟨hr, hg, (Option.some.inj h).symm⟩)⟩)
  case h_6 e hr hg he =>
    exact .inr (.inr ⟨e, he, .inr (.inr ⟨.inl hr, hg, (Option.some.inj h).symm⟩)⟩)
  case h_7 e hr hg he =>
    exact .inr (.inr ⟨e, he, .inr (.inr ⟨.inr hr, hg, (Option.some.inj h).symm⟩)⟩)
  case h_8 => cases h

theorem permitOf_none {r : ApprovalRequest} {p : Permit ExecutionId}
    (h : permitOf r none = some p) :
    (r.status = .pending ∧ p = .asked) ∨
    ((r.status = .rejected ∨ r.status = .cancelled ∨ r.status = .expired ∨
      r.status = .invalidated) ∧ p = .refused) := by
  unfold permitOf at h
  cases hr : r.status <;> rw [hr] at h <;> cases h <;> simp

section

variable {r : ApprovalRequest} {g : ApprovalGrant} {e : ExecutionId}

theorem permitOf_asked (hr : r.status = .pending) : permitOf r none = some .asked := by
  unfold permitOf
  rw [hr]

theorem permitOf_refused (hr : r.status = .rejected ∨ r.status = .cancelled ∨ r.status = .expired ∨
    r.status = .invalidated) : permitOf r none = some .refused := by
  unfold permitOf
  rcases hr with hr | hr | hr | hr <;> rw [hr]

theorem permitOf_granted (hr : r.status = .approved) (hg : g.status = .issued)
    (he : g.executionId = none) : permitOf r (some g) = some .granted := by
  unfold permitOf
  dsimp only
  rw [hr, hg, he]

theorem permitOf_withdrawn (hr : r.status = .cancelled ∨ r.status = .invalidated)
    (hg : g.status = .revoked) (he : g.executionId = none) :
    permitOf r (some g) = some .withdrawn := by
  unfold permitOf
  dsimp only
  rcases hr with hr | hr <;> rw [hr, hg, he]

theorem permitOf_taken (hr : r.status = .claimed) (hg : g.status = .claimed)
    (he : g.executionId = some e) : permitOf r (some g) = some (.taken e) := by
  unfold permitOf
  dsimp only
  rw [hr, hg, he]

theorem permitOf_spent (hr : r.status = .consumed) (hg : g.status = .consumed)
    (he : g.executionId = some e) : permitOf r (some g) = some (.spent e) := by
  unfold permitOf
  dsimp only
  rw [hr, hg, he]

theorem permitOf_failed (hr : r.status = .failed ∨ r.status = .cancelled)
    (hg : g.status = .failed) (he : g.executionId = some e) :
    permitOf r (some g) = some (.failed e) := by
  unfold permitOf
  dsimp only
  rcases hr with hr | hr <;> rw [hr, hg, he]

end

theorem permitOf_execution {r : ApprovalRequest} {g : ApprovalGrant} {p : Permit ExecutionId}
    (h : permitOf r (some g) = some p) : p.execution = g.executionId := by
  rcases permitOf_some h with ⟨_, _, he, rfl⟩ | ⟨_, _, he, rfl⟩ |
    ⟨e, he, ⟨_, _, rfl⟩ | ⟨_, _, rfl⟩ | ⟨_, _, rfl⟩⟩ <;> exact he.symm

/-- The request of an issued grant is approved. -/
theorem permitOf_issued {r : ApprovalRequest} {g : ApprovalGrant} {p : Permit ExecutionId}
    (h : permitOf r (some g) = some p) (hg : g.status = .issued) :
    r.status = .approved ∧ g.executionId = none ∧ p = .granted := by
  rcases permitOf_some h with ⟨hr, _, he, hp⟩ | ⟨_, hg', _⟩ | ⟨e, _, ⟨_, hg', _⟩ | ⟨_, hg', _⟩ |
    ⟨_, hg', _⟩⟩
  · exact ⟨hr, he, hp⟩
  all_goals
    rw [hg] at hg'
    cases hg'

/-- The request of a claimed grant is claimed. -/
theorem permitOf_claimed {r : ApprovalRequest} {g : ApprovalGrant} {p : Permit ExecutionId}
    (h : permitOf r (some g) = some p) (hg : g.status = .claimed) :
    r.status = .claimed ∧ ∃ e, g.executionId = some e ∧ p = .taken e := by
  rcases permitOf_some h with ⟨_, hg', _⟩ | ⟨_, hg', _⟩ | ⟨e, he, ⟨hr, _, hp⟩ | ⟨_, hg', _⟩ |
    ⟨_, hg', _⟩⟩
  case inr.inr.inl => exact ⟨hr, e, he, hp⟩
  all_goals
    rw [hg] at hg'
    cases hg'

/-! ## The tables of the approval operations -/

structure Approvals where
  requests : Table ApprovalRequest
  decisions : Table ApprovalDecision
  grants : Table ApprovalGrant
  vault : Vault

/-- The approvals of a database next to a vault. -/
def Db.approvals (db : Db) (vault : Vault) : Approvals :=
  ⟨db.requests, db.decisions, db.grants, vault⟩

/-- The grant is one for the request. -/
structure GrantedFor (r : ApprovalRequest) (g : ApprovalGrant) : Prop where
  request : g.requestId = r.requestId
  organization : g.organizationId = r.organizationId
  task : g.taskId = r.taskId
  step : g.stepId = r.stepId
  action : g.actionType = r.actionType
  parameters : g.parameterHash = r.parameterHash
  risk : g.riskLevel = r.riskLevel
  executor : g.executorUserId = r.executorUserId
  expiry : g.expiresAt ≤ r.expiresAt

/-- The decision is one about the request, by somebody else in a role that it requires. -/
structure DecidedFor (r : ApprovalRequest) (d : ApprovalDecision) : Prop where
  request : d.requestId = r.requestId
  organization : d.organizationId = r.organizationId
  requester : d.approverUserId ≠ r.requesterUserId
  executor : d.approverUserId ≠ r.executorUserId
  role : d.approvalRole ∈ r.requiredRoles
  action : d.actionType = r.actionType
  parameters : d.parameterHash = r.parameterHash

theorem GrantedFor.of_fixed {r r' : ApprovalRequest} {g g' : ApprovalGrant}
    (h : GrantedFor r g) (hr : r'.fixed = r.fixed) (hg : g'.fixed = g.fixed) :
    GrantedFor r' g' := by
  obtain ⟨hrequest, horganization, htask, hstep, haction, hparameters, hrisk, hexecutor, hexpiry⟩ :
      GrantedFor r'.fixed g'.fixed := by
    rw [hr, hg]
    exact ⟨h.request, h.organization, h.task, h.step, h.action, h.parameters, h.risk, h.executor,
      h.expiry⟩
  exact ⟨hrequest, horganization, htask, hstep, haction, hparameters, hrisk, hexecutor, hexpiry⟩

theorem DecidedFor.of_fixed {r r' : ApprovalRequest} {d : ApprovalDecision} (h : DecidedFor r d)
    (hr : r'.fixed = r.fixed) : DecidedFor r' d := by
  obtain ⟨hrequest, horganization, hrequester, hexecutor, hrole, haction, hparameters⟩ :
      DecidedFor r'.fixed d := by
    rw [hr]
    exact ⟨h.request, h.organization, h.requester, h.executor, h.role, h.action, h.parameters⟩
  exact ⟨hrequest, horganization, hrequester, hexecutor, hrole, haction, hparameters⟩

theorem ApprovalRequest.roles_of_fixed {r r' : ApprovalRequest} (h : r'.fixed = r.fixed) :
    r'.requiredRoles = r.requiredRoles := by
  have hroles : r'.fixed.requiredRoles = r.fixed.requiredRoles := by rw [h]
  exact hroles

theorem ApprovalRequest.id_of_fixed {r r' : ApprovalRequest} (h : r'.fixed = r.fixed) :
    r'.requestId = r.requestId := by
  have hid : r'.fixed.requestId = r.fixed.requestId := by rw [h]
  exact hid

theorem ApprovalGrant.ids_of_fixed {g g' : ApprovalGrant} (h : g'.fixed = g.fixed) :
    g'.grantId = g.grantId ∧ g'.requestId = g.requestId := by
  have hid : g'.fixed.grantId = g.fixed.grantId := by rw [h]
  have hrequest : g'.fixed.requestId = g.fixed.requestId := by rw [h]
  exact ⟨hid, hrequest⟩

namespace Approvals

def grantOf (s : Approvals) (requestId : RequestId) : Option ApprovalGrant :=
  s.grants.one? fun g => g.requestId = requestId

/-- A role has approved the request. -/
def ApprovedBy (s : Approvals) (requestId : RequestId) (role : ApprovalRole) : Prop :=
  ∃ d ∈ s.decisions.rows, d.requestId = requestId ∧ d.decision = .approved ∧ d.approvalRole = role

/-- The credentials in memory are those of the issued grants. -/
structure VaultValid [Sha256] (s : Approvals) : Prop where
  keys : (s.vault.entries.map (·.1)).Nodup
  bounded : s.vault.entries.length ≤ Vault.capacity
  issued : ∀ e ∈ s.vault.entries, ∃ g ∈ s.grants.rows, g.grantId = e.1 ∧ g.status = .issued ∧
    g.tokenHash = stableHashText e.2.token ∧ g.nonceHash = stableHashText e.2.nonce

structure Valid [Sha256] (s : Approvals) : Prop where
  permits : ∀ r ∈ s.requests.rows, ∃ p, permitOf r (s.grantOf r.requestId) = some p
  granted : ∀ g ∈ s.grants.rows, ∃ r ∈ s.requests.rows, GrantedFor r g
  single : ∀ g ∈ s.grants.rows, ∀ g' ∈ s.grants.rows, g.requestId = g'.requestId → g = g'
  exclusive : ∀ g ∈ s.grants.rows, ∀ g' ∈ s.grants.rows, ∀ e, g.executionId = some e →
    g'.executionId = some e → g = g'
  decided : ∀ d ∈ s.decisions.rows, ∃ r ∈ s.requests.rows, DecidedFor r d
  distinct : ∀ d ∈ s.decisions.rows, ∀ d' ∈ s.decisions.rows, d.requestId = d'.requestId →
    d.approverUserId = d'.approverUserId ∨ d.approvalRole = d'.approvalRole → d = d'
  quorum : ∀ g ∈ s.grants.rows, ∀ r ∈ s.requests.rows, r.requestId = g.requestId →
    ∀ role, role ∈ r.requiredRoles ↔ s.ApprovedBy r.requestId role
  vault : s.VaultValid

def empty : Approvals := ⟨.empty, .empty, .empty, ⟨[]⟩⟩

theorem valid_empty [Sha256] : empty.Valid where
  permits := fun _ h => (List.not_mem_nil h).elim
  granted := fun _ h => (List.not_mem_nil h).elim
  single := fun _ h => (List.not_mem_nil h).elim
  exclusive := fun _ h => (List.not_mem_nil h).elim
  decided := fun _ h => (List.not_mem_nil h).elim
  distinct := fun _ h => (List.not_mem_nil h).elim
  quorum := fun _ h => (List.not_mem_nil h).elim
  vault := ⟨List.nodup_nil, Nat.zero_le _, fun _ h => (List.not_mem_nil h).elim⟩

theorem grantOf_eq_none {s : Approvals} {requestId : RequestId} :
    s.grantOf requestId = none ↔ ∀ g ∈ s.grants.rows, g.requestId ≠ requestId := by
  unfold grantOf
  rw [Table.one?_eq_none]
  simp

theorem mem_of_grantOf {s : Approvals} {requestId : RequestId} {g : ApprovalGrant}
    (h : s.grantOf requestId = some g) : g ∈ s.grants.rows ∧ g.requestId = requestId := by
  obtain ⟨hmem, hrequest⟩ := Table.one?_mem h
  exact ⟨hmem, of_decide_eq_true hrequest⟩

theorem grantOf_of_mem {s : Approvals} {requestId : RequestId} {g : ApprovalGrant}
    (hsingle : ∀ g ∈ s.grants.rows, ∀ g' ∈ s.grants.rows, g.requestId = g'.requestId → g = g')
    (hg : g ∈ s.grants.rows) (hrequest : g.requestId = requestId) :
    s.grantOf requestId = some g := by
  cases hof : s.grantOf requestId with
  | none => exact absurd hrequest (grantOf_eq_none.mp hof g hg)
  | some g' =>
      obtain ⟨hg', hrequest'⟩ := mem_of_grantOf hof
      rw [hsingle g hg g' hg' (hrequest.trans hrequest'.symm)]

theorem grantOf_congr {s t : Approvals} (h : t.grants = s.grants) (requestId : RequestId) :
    t.grantOf requestId = s.grantOf requestId := by
  unfold grantOf
  rw [h]

/-- The registry of permits that the tables stand for. -/
def registry (s : Approvals) : Permit.Registry RequestId ExecutionId := fun requestId =>
  (s.requests.get? requestId).bind fun r => permitOf r (s.grantOf requestId)

theorem registry_of_mem {s : Approvals} {r : ApprovalRequest} (hr : r ∈ s.requests.rows) :
    s.registry r.requestId = permitOf r (s.grantOf r.requestId) := by
  unfold registry
  rw [← key_request, Table.get?_of_mem hr]
  rfl

section

variable [Sha256] {s : Approvals}

/-- A request with its grant. -/
theorem Valid.permit_of_grant (h : s.Valid) {r : ApprovalRequest} {g : ApprovalGrant}
    (hr : r ∈ s.requests.rows) (hg : g ∈ s.grants.rows) (hrequest : g.requestId = r.requestId) :
    ∃ p, permitOf r (some g) = some p := by
  obtain ⟨p, hp⟩ := h.permits r hr
  rw [grantOf_of_mem h.single hg hrequest] at hp
  exact ⟨p, hp⟩

/-- A grant is found with its request. -/
theorem Valid.request_of_grant (h : s.Valid) {g : ApprovalGrant} (hg : g ∈ s.grants.rows) :
    ∃ r ∈ s.requests.rows, GrantedFor r g ∧ ∃ p, permitOf r (some g) = some p := by
  obtain ⟨r, hr, hfor⟩ := h.granted g hg
  exact ⟨r, hr, hfor, h.permit_of_grant hr hg hfor.request⟩

/-- The credential of a grant that is no longer issued is gone. -/
theorem Valid.no_credential (h : s.Valid) {g : ApprovalGrant} (hg : g ∈ s.grants.rows)
    (hstatus : g.status ≠ .issued) : ∀ e ∈ s.vault.entries, e.1 ≠ g.grantId := by
  intro e he hsame
  obtain ⟨x, hx, hid, hissued, _⟩ := h.vault.issued e he
  rw [Table.eq_of_key hx hg (hid.trans hsame)] at hissued
  exact hstatus hissued

/-- A pending request has no grant yet. -/
theorem Valid.pending_ungranted (h : s.Valid) {r : ApprovalRequest} (hr : r ∈ s.requests.rows)
    (hpending : r.status = .pending) : ∀ g ∈ s.grants.rows, g.requestId ≠ r.requestId := by
  intro g hg hrequest
  obtain ⟨p, hp⟩ := h.permit_of_grant hr hg hrequest
  rcases permitOf_some hp with ⟨hr', _⟩ | ⟨hr' | hr', _⟩ | ⟨e, _, ⟨hr', _⟩ | ⟨hr', _⟩ |
    ⟨hr' | hr', _⟩⟩ <;> rw [hpending] at hr' <;> cases hr'

end

end Approvals

end FlowPilot
