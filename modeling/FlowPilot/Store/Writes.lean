import FlowPilot.Lib.Raise
import FlowPilot.Store.Db

/-!
# Writes that the schema can refuse

Inserts check the primary key and the unique keys of their table, and the lease and partition
writes check the columns and ranges that an operation could violate.  A refused write is an
integrity error.
-/

open FlowPilot.Lib

namespace FlowPilot

/-- `sequence = head_sequence + 1`, chained to the head that is then moved to the new event. -/
def AuditLog.append (log : AuditLog) (head : AuditChainHead) (event : AuditEvent)
    (hhead : log.heads.get? event.organizationId = some head)
    (hseq : event.sequence = head.headSequence + 1) : AuditLog where
  heads := log.heads.update (fun h => h.organizationId = event.organizationId) fun h =>
    { h with
      headSequence := event.sequence
      headHash := event.eventHash
      version := h.version + 1
      updatedAt := event.createdAt }
  events := log.events.insert event (by
    rw [Table.get?_eq_none]
    intro e he hk
    have horg : e.organizationId = event.organizationId := congrArg Prod.fst hk
    have hsame : e.sequence = event.sequence := congrArg Prod.snd hk
    rcases log.bounded e he with ⟨h, hh, hle⟩
    rw [horg, hhead] at hh
    cases hh
    omega)
  bounded := by
    intro e he
    rw [Table.get?_update]
    rcases (Table.mem_insert _).mp he with hold | rfl
    · rcases log.bounded e hold with ⟨h, hh, hle⟩
      rw [hh]
      by_cases horg : e.organizationId = event.organizationId
      · have hkey : h.organizationId = event.organizationId :=
          (Table.key_of_get? hh).trans horg
        rw [horg, hhead] at hh
        cases hh
        simp only [Option.map_some, hkey, decide_true, if_true]
        exact ⟨_, rfl, by simp only; omega⟩
      · have hkey : ¬ h.organizationId = event.organizationId := fun hk =>
          horg ((Table.key_of_get? hh).symm.trans hk)
        simp only [Option.map_some, hkey, decide_false, Bool.false_eq_true, if_false]
        exact ⟨h, rfl, hle⟩
    · have hkey : head.organizationId = e.organizationId := Table.key_of_get? hhead
      rw [hhead]
      simp only [Option.map_some, hkey, decide_true, if_true]
      exact ⟨_, rfl, Nat.le_refl _⟩

namespace Db

/-- `uq_w12_run_approval_request` and `uq_w12_run_execution`. -/
def insertRun (db : Db) (run : ProductionRun) : Except Failure Db :=
  if db.runs.one? (fun r => r.organizationId = run.organizationId ∧
      (r.approvalRequestId.isSome ∧ r.approvalRequestId = run.approvalRequestId ∨
        r.executionId.isSome ∧ r.executionId = run.executionId)) |>.isSome then
    .error .integrityError
  else
    match db.runs.insert? run with
    | none => .error .integrityError
    | some runs => .ok { db with runs := runs }

/-- `uq_w12_outbox_run`, and the run that the row refers to. -/
def insertOutbox (db : Db) (outbox : DispatchOutbox) : Except Failure Db :=
  if (db.runs.one? fun r => r.organizationId = outbox.organizationId ∧
      r.runId = outbox.runId).isNone then
    .error .integrityError
  else if (db.outbox.one? fun o => o.organizationId = outbox.organizationId ∧
      o.runId = outbox.runId).isSome then
    .error .integrityError
  else
    match db.outbox.insert? outbox with
    | none => .error .integrityError
    | some rows => .ok { db with outbox := rows }

def insertRequest (db : Db) (request : ApprovalRequest) : Except Failure Db :=
  match db.requests.insert? request with
  | none => .error .integrityError
  | some rows => .ok { db with requests := rows }

/-- `uq_w11_decision_request_approver` and `uq_w11_decision_role`. -/
def insertDecision (db : Db) (decision : ApprovalDecision) : Except Failure Db :=
  if (db.decisions.one? fun d => d.organizationId = decision.organizationId ∧
      d.requestId = decision.requestId ∧
      (d.approverUserId = decision.approverUserId ∨
        d.approvalRole = decision.approvalRole)).isSome then
    .error .integrityError
  else
    match db.decisions.insert? decision with
    | none => .error .integrityError
    | some rows => .ok { db with decisions := rows }

/-- `uq_w11_grant_request`. -/
def insertGrant (db : Db) (grant : ApprovalGrant) : Except Failure Db :=
  if (db.grants.one? fun g => g.organizationId = grant.organizationId ∧
      g.requestId = grant.requestId).isSome then
    .error .integrityError
  else
    match db.grants.insert? grant with
    | none => .error .integrityError
    | some rows => .ok { db with grants := rows }

/-- `uq_w11_authority_user_role`. -/
def insertAuthority (db : Db) (authority : ApprovalAuthority) : Except Failure Db :=
  if (db.authorities.one? fun a => a.organizationId = authority.organizationId ∧
      a.userId = authority.userId ∧ a.role = authority.role).isSome then
    .error .integrityError
  else
    match db.authorities.insert? authority with
    | none => .error .integrityError
    | some rows => .ok { db with authorities := rows }

/-- `uq_w12_idempotency_actor_key`, which is the key of the table. -/
def insertIdempotency (db : Db) (record : IdempotencyRecord) : Except Failure Db :=
  match db.idempotency.insert? record with
  | none => .error .integrityError
  | some rows => .ok { db with idempotency := rows }

/-- The values of a lease row before the `NOT NULL` columns are checked. -/
structure LeaseValues where
  organizationId : OrganizationId
  outboxId : OutboxId
  runId : RunId
  workerOwnerHash : Option Digest
  leaseVersion : Nat
  fencingToken : Nat
  leasedAt : Option Time
  leaseExpiresAt : Option Time
  heartbeatAt : Option Time
  attemptCount : Nat
  status : LeaseStatus
  closedAt : Option Time

/-- `w12_worker_leases`: the non-null columns, the checks on version, fence and attempts, the
foreign keys, and `uq_w12_lease_fence`, which is the key of the table. -/
def insertLease (db : Db) (values : LeaseValues) : Except Failure Db :=
  match values.workerOwnerHash, values.leasedAt, values.leaseExpiresAt, values.heartbeatAt with
  | some owner, some leasedAt, some leaseExpiresAt, some heartbeatAt =>
    if 1 ≤ values.leaseVersion ∧ 1 ≤ values.fencingToken ∧ 1 ≤ values.attemptCount ∧
        values.attemptCount ≤ 3 ∧
        (db.outbox.one? fun o => o.organizationId = values.organizationId ∧
          o.outboxId = values.outboxId).isSome ∧
        (db.runs.one? fun r => r.organizationId = values.organizationId ∧
          r.runId = values.runId).isSome then
      match db.leases.insert?
        { organizationId := values.organizationId
          outboxId := values.outboxId
          runId := values.runId
          workerOwnerHash := owner
          leaseVersion := values.leaseVersion
          fencingToken := values.fencingToken
          leasedAt := leasedAt
          leaseExpiresAt := leaseExpiresAt
          heartbeatAt := heartbeatAt
          attemptCount := values.attemptCount
          status := values.status
          closedAt := values.closedAt } with
      | none => .error .integrityError
      | some rows => .ok { db with leases := rows }
    else .error .integrityError
  | _, _, _, _ => .error .integrityError

/-- An update of one organization's partition, subject to `ck_w12_partition_ready`. -/
def updatePartition (db : Db) (organizationId : OrganizationId)
    (set : SchedulerPartition → SchedulerPartition)
    (hset : ∀ p, (set p).organizationId = p.organizationId := by intro _; rfl) :
    Except Failure Db :=
  let partitions := db.partitions.update (fun p => p.organizationId = organizationId) set hset
  if partitions.rows.all fun p => decide (0 ≤ p.readyCount ∧ p.readyCount ≤ 32) then
    .ok { db with partitions := partitions }
  else .error .integrityError

/-- An update of outbox rows, subject to `ck_w12_outbox_attempts`. -/
def updateOutbox (db : Db) (where_ : DispatchOutbox → Bool)
    (set : DispatchOutbox → DispatchOutbox)
    (hset : ∀ o, (set o).outboxId = o.outboxId := by intro _; rfl) : Except Failure Db :=
  let rows := db.outbox.update where_ set hset
  if rows.rows.all fun o => decide (o.attemptCount ≤ 3) then .ok { db with outbox := rows }
  else .error .integrityError

/-! ## What the writes leave behind -/

/-- `ready_count` of an organization's partition, zero before the row exists. -/
def readyIn (partitions : Table SchedulerPartition) (organizationId : OrganizationId) : Int :=
  match partitions.get? organizationId with
  | none => 0
  | some p => p.readyCount

def readyCount (db : Db) (organizationId : OrganizationId) : Int :=
  readyIn db.partitions organizationId

/-- The outbox rows of an organization that count towards its backlog. -/
def activeCount (db : Db) (organizationId : OrganizationId) : Nat :=
  db.outbox.count fun o => o.organizationId = organizationId ∧ o.status.active

/-- `ck_w12_partition_ready` holds of every row. -/
def InRange (db : Db) : Prop :=
  ∀ p ∈ db.partitions.rows, 0 ≤ p.readyCount ∧ p.readyCount ≤ 32

variable {db after : Db}

theorem updatePartition_ok {organizationId : OrganizationId}
    {set : SchedulerPartition → SchedulerPartition}
    {hset : ∀ p, (set p).organizationId = p.organizationId}
    (h : db.updatePartition organizationId set hset = .ok after) :
    after = { db with
      partitions := db.partitions.update (fun p => p.organizationId = organizationId) set hset }
    ∧ after.InRange := by
  unfold updatePartition at h
  dsimp only at h
  split at h
  · next hall =>
    cases h
    refine ⟨rfl, ?_⟩
    intro p hp
    simpa using List.all_eq_true.mp hall p hp
  · cases h

/-- An update that adds `k` to an organization's counter; its row has to exist unless `k` is
zero. -/
theorem readyIn_update {partitions : Table SchedulerPartition} {organizationId : OrganizationId}
    {set : SchedulerPartition → SchedulerPartition} (k : Int)
    (hrow : k = 0 ∨ (partitions.get? organizationId).isSome) (other : OrganizationId)
    (hset : ∀ p, (set p).organizationId = p.organizationId := by intro _; rfl)
    (hk : ∀ p, partitions.get? organizationId = some p →
      (set p).readyCount = p.readyCount + k := by intro _ _; dsimp only; omega) :
    readyIn (partitions.update (fun p => p.organizationId = organizationId) set hset) other =
      readyIn partitions other + if other = organizationId then k else 0 := by
  unfold readyIn
  rw [Table.get?_update]
  cases hp : partitions.get? other with
  | none =>
      by_cases horg : other = organizationId
      · rw [← horg, hp] at hrow
        rcases hrow with hzero | hsome
        · simp [hzero]
        · cases hsome
      · simp [horg]
  | some p =>
      have hkey : p.organizationId = other := Table.key_of_get? hp
      by_cases horg : other = organizationId
      · rw [horg] at hp
        simp [hkey, horg, hk p hp]
      · simp [hkey, horg]

theorem partition_of_ready {partitions : Table SchedulerPartition}
    {organizationId : OrganizationId} (h : 1 ≤ readyIn partitions organizationId) :
    (partitions.get? organizationId).isSome := by
  unfold readyIn at h
  cases hp : partitions.get? organizationId with
  | none =>
      rw [hp] at h
      cases h
  | some p => rfl

theorem updatePartition_avoids {organizationId : OrganizationId}
    {set : SchedulerPartition → SchedulerPartition}
    {hset : ∀ p, (set p).organizationId = p.organizationId} (hrange : db.InRange)
    (hnew : ∀ p ∈ db.partitions.rows, p.organizationId = organizationId →
      0 ≤ (set p).readyCount ∧ (set p).readyCount ≤ 32) :
    Avoids .integrityError (db.updatePartition organizationId set hset) := by
  unfold updatePartition
  dsimp only
  split
  · exact Avoids.ok _ _
  · next hall =>
    exfalso
    apply hall
    rw [List.all_eq_true]
    intro p hp
    rcases Table.mem_update hp with ⟨q, hq, heq⟩
    rw [decide_eq_true_eq, heq]
    by_cases horg : q.organizationId = organizationId
    · simpa [horg] using hnew q hq horg
    · simpa [horg] using hrange q hq

theorem updateOutbox_ok {where_ : DispatchOutbox → Bool}
    {set : DispatchOutbox → DispatchOutbox} {hset : ∀ o, (set o).outboxId = o.outboxId}
    (h : db.updateOutbox where_ set hset = .ok after) :
    after = { db with outbox := db.outbox.update where_ set hset } ∧
      ∀ o ∈ after.outbox.rows, o.attemptCount ≤ 3 := by
  unfold updateOutbox at h
  dsimp only at h
  split at h
  · next hall =>
    cases h
    refine ⟨rfl, ?_⟩
    intro o ho
    simpa using List.all_eq_true.mp hall o ho
  · cases h

theorem updateOutbox_avoids {where_ : DispatchOutbox → Bool}
    {set : DispatchOutbox → DispatchOutbox} {hset : ∀ o, (set o).outboxId = o.outboxId}
    (hold : ∀ o ∈ db.outbox.rows, o.attemptCount ≤ 3)
    (hnew : ∀ o ∈ db.outbox.rows, where_ o = true → (set o).attemptCount ≤ 3) :
    Avoids .integrityError (db.updateOutbox where_ set hset) := by
  unfold updateOutbox
  dsimp only
  split
  · exact Avoids.ok _ _
  · next hall =>
    exfalso
    apply hall
    rw [List.all_eq_true]
    intro o ho
    rcases Table.mem_update ho with ⟨q, hq, heq⟩
    rw [decide_eq_true_eq, heq]
    by_cases hw : where_ q = true
    · rw [if_pos hw]
      exact hnew q hq hw
    · rw [if_neg hw]
      exact hold q hq

theorem insertLease_ok {values : LeaseValues} (h : db.insertLease values = .ok after) :
    ∃ lease hfresh, after = { db with leases := db.leases.insert lease hfresh } ∧
      lease.organizationId = values.organizationId ∧ lease.outboxId = values.outboxId ∧
      lease.fencingToken = values.fencingToken := by
  unfold insertLease at h
  split at h
  · split at h
    · split at h
      · cases h
      · next rows hrows =>
        rcases Table.insert?_eq_some hrows with ⟨hfresh, rfl⟩
        cases h
        exact ⟨_, hfresh, rfl, rfl, rfl, rfl⟩
    · cases h
  · cases h

theorem insertOutbox_ok {outbox : DispatchOutbox} (h : db.insertOutbox outbox = .ok after) :
    ∃ hfresh, after = { db with outbox := db.outbox.insert outbox hfresh } ∧
      (∃ r ∈ db.runs.rows, r.organizationId = outbox.organizationId ∧ r.runId = outbox.runId) ∧
      ∀ o ∈ db.outbox.rows, o.organizationId = outbox.organizationId →
        o.runId ≠ outbox.runId := by
  unfold insertOutbox at h
  split at h
  · cases h
  · next hrun =>
    split at h
    · cases h
    · next hsingle =>
      split at h
      · cases h
      · next rows hrows =>
        rcases Table.insert?_eq_some hrows with ⟨hfresh, rfl⟩
        cases h
        refine ⟨hfresh, rfl, ?_, ?_⟩
        · cases ho : db.runs.one? fun r => r.organizationId = outbox.organizationId ∧
              r.runId = outbox.runId with
          | none =>
            rw [ho] at hrun
            exact absurd rfl hrun
          | some r =>
            have hr := Table.one?_mem ho
            exact ⟨r, hr.1, by simpa using hr.2⟩
        · intro o ho horg hrunId
          apply hsingle
          cases hone : db.outbox.one? fun o => o.organizationId = outbox.organizationId ∧
              o.runId = outbox.runId with
          | none =>
            have hmiss := Table.one?_eq_none.mp hone o ho
            simp [horg, hrunId] at hmiss
          | some _ => rfl

theorem insertRun_ok {run : ProductionRun} (h : db.insertRun run = .ok after) :
    ∃ hfresh, after = { db with runs := db.runs.insert run hfresh } := by
  unfold insertRun at h
  split at h
  · cases h
  · split at h
    · cases h
    · next rows hrows =>
      rcases Table.insert?_eq_some hrows with ⟨hfresh, rfl⟩
      cases h
      exact ⟨hfresh, rfl⟩

theorem insertRequest_ok {request : ApprovalRequest} (h : db.insertRequest request = .ok after) :
    ∃ hfresh, after = { db with requests := db.requests.insert request hfresh } := by
  unfold insertRequest at h
  split at h
  · cases h
  · next rows hrows =>
    rcases Table.insert?_eq_some hrows with ⟨hfresh, rfl⟩
    cases h
    exact ⟨hfresh, rfl⟩

theorem insertIdempotency_ok {record : IdempotencyRecord}
    (h : db.insertIdempotency record = .ok after) :
    ∃ hfresh, after = { db with idempotency := db.idempotency.insert record hfresh } := by
  unfold insertIdempotency at h
  split at h
  · cases h
  · next rows hrows =>
    rcases Table.insert?_eq_some hrows with ⟨hfresh, rfl⟩
    cases h
    exact ⟨hfresh, rfl⟩

end Db

end FlowPilot
