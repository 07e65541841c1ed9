import FlowPilot.Store.Writes

/-!
# The outbox and the runs

Both services write the run and its outbox row by hand, in the same transaction.  `Coupled` says
what the two rows agree on in every committed state, and `Step` says once what any committed
transaction may do to the dispatch tables.  Every invariant of the queue is derived from `Step`.
-/

open FlowPilot.Lib

namespace FlowPilot

/-- A worker holds the row under a lease. -/
def OutboxStatus.held (status : OutboxStatus) : Prop := status = leased ∨ status = dispatched

instance (status : OutboxStatus) : Decidable status.held := by
  unfold OutboxStatus.held
  infer_instance

/-- The run statuses that go with an outbox status. -/
def OutboxStatus.agrees : OutboxStatus → RunStatus → Prop
  | .ready, run => run = .queued
  | .leased, run => run = .leased ∨ run = .recovering
  | .dispatched, run => run = .running
  | .closed, run => run = .finishedUngraded
  | .cancelled, run => run = .cancelled
  | .expired, run => run = .expired
  | .failed, run => run = .failed

/-- A row is active exactly while its run is not over. -/
theorem OutboxStatus.agrees_active {outbox : OutboxStatus} {run : RunStatus}
    (h : outbox.agrees run) : outbox.active ↔ ¬ run.terminal := by
  cases outbox <;> simp only [agrees] at h
  case leased => rcases h with h | h <;> simp [h, active, RunStatus.terminal]
  all_goals simp [h, active, RunStatus.terminal]

theorem OutboxStatus.agrees_not_waiting {outbox : OutboxStatus} {run : RunStatus}
    (h : outbox.agrees run) : run ≠ .waitingApproval := by
  cases outbox <;> simp only [agrees] at h
  case leased => rcases h with h | h <;> simp [h]
  all_goals simp [h]

theorem OutboxStatus.active_of_held {status : OutboxStatus} (h : status.held) :
    status.active := by
  rcases h with h | h
  · exact .inr (.inl h)
  · exact .inr (.inr h)

/-- What nothing changes about a run once it is queued. -/
def ProductionRun.fixed (r : ProductionRun) : ProductionRun :=
  { r with
    status := .queued
    version := 0
    leaseOwnerHash := none
    fencingToken := 0
    leaseExpiresAt := none
    startedAt := none
    finishedAt := none
    terminalReason := none
    receiptReference := none
    auditSequence := 0
    updatedAt := 0 }

/-- What nothing changes about an outbox row. -/
def DispatchOutbox.fixed (o : DispatchOutbox) : DispatchOutbox :=
  { o with
    status := .ready
    attemptCount := 0
    fencingToken := 0
    leaseOwnerHash := none
    leaseVersion := 0
    leasedAt := none
    leaseExpiresAt := none
    heartbeatAt := none
    updatedAt := 0 }

/-- The end of a run has a date, and only an ended run has a reason. -/
structure ProductionRun.Dated (r : ProductionRun) : Prop where
  finished : r.status.terminal → r.finishedAt.isSome
  reason : ¬ r.status.terminal → r.terminalReason = none

namespace ProductionRun.Dated

variable {r r' : ProductionRun}

theorem ended (hover : r'.status.terminal) (hfinished : r'.finishedAt.isSome) : r'.Dated :=
  ⟨fun _ => hfinished, fun hopen => absurd hover hopen⟩

theorem going (h : r.Dated) (hopen : ¬ r.status.terminal) (hopen' : ¬ r'.status.terminal)
    (hreason : r'.terminalReason = r.terminalReason) : r'.Dated :=
  ⟨fun hover => absurd hover hopen', fun _ => hreason.trans (h.reason hopen)⟩

end ProductionRun.Dated

/-- The lease columns of a held row are complete, and the run has the same owner. -/
structure Held (o : DispatchOutbox) (r : ProductionRun) : Prop where
  fence : 1 ≤ o.fencingToken
  version : 1 ≤ o.leaseVersion
  attempt : 1 ≤ o.attemptCount
  owner : o.leaseOwnerHash.isSome
  same_owner : r.leaseOwnerHash = o.leaseOwnerHash
  leased : o.leasedAt.isSome
  expires : o.leaseExpiresAt.isSome

/-- A ready row has either never been leased or lost its owner to a release. -/
def FreshOrReleased (o : DispatchOutbox) : Prop :=
  o.fencingToken = 0 ∧ o.attemptCount = 0 ∨
    1 ≤ o.fencingToken ∧ o.leasedAt.isSome ∧ o.leaseOwnerHash = none

structure Coupled (o : DispatchOutbox) (r : ProductionRun) : Prop where
  run : o.runId = r.runId
  organization : o.organizationId = r.organizationId
  fence : o.fencingToken = r.fencingToken
  status : o.status.agrees r.status
  held : o.status.held → Held o r
  ready : o.status = .ready → FreshOrReleased o
  attempts : o.attemptCount ≤ 3

namespace Coupled

/-- The rows agree when a run ends and its row leaves the queue with the matching status. -/
theorem finish {o : DispatchOutbox} {r r' : ProductionRun} {status : OutboxStatus}
    {now : Time} (h : Coupled o r) (hfixed : r'.fixed = r.fixed)
    (hfence : r'.fencingToken = r.fencingToken) (hagrees : status.agrees r'.status)
    (hclosed : ¬ status.active) :
    Coupled { o with status := status, updatedAt := now } r' where
  run := by
    have hrun := congrArg ProductionRun.runId hfixed
    exact h.run.trans hrun.symm
  organization := by
    have horg := congrArg ProductionRun.organizationId hfixed
    exact h.organization.trans horg.symm
  fence := h.fence.trans hfence.symm
  status := hagrees
  held := fun hheld => absurd (OutboxStatus.active_of_held hheld) hclosed
  ready := fun hready => absurd (.inl hready) hclosed
  attempts := h.attempts

end Coupled

namespace Db

/-- What holds of the dispatch tables in every committed state. -/
structure Consistent (db : Db) : Prop where
  coupled : ∀ o ∈ db.outbox.rows, ∃ r ∈ db.runs.rows, Coupled o r
  single : ∀ o ∈ db.outbox.rows, ∀ o' ∈ db.outbox.rows, o.runId = o'.runId → o = o'
  waiting : ∀ r ∈ db.runs.rows, r.status = .waitingApproval →
    ∀ o ∈ db.outbox.rows, o.runId ≠ r.runId
  unleased : ∀ r ∈ db.runs.rows, r.status = .waitingApproval → r.fencingToken = 0
  leases : ∀ l ∈ db.leases.rows, ∃ o ∈ db.outbox.rows, o.outboxId = l.outboxId ∧
    l.fencingToken ≤ o.fencingToken ∧ (l.fencingToken = o.fencingToken → ¬ o.status.held)

namespace Consistent

variable {db : Db}

theorem initial (directory : Directory) (authorities : Table ApprovalAuthority)
    (heads : Table AuditChainHead) : (Db.initial directory authorities heads).Consistent where
  coupled := by
    intro o ho
    cases ho
  single := by
    intro o ho
    cases ho
  waiting := by
    intro r hr
    cases hr
  unleased := by
    intro r hr
    cases hr
  leases := by
    intro l hl
    cases hl

/-- The run that an outbox row names is the one it is coupled with. -/
theorem coupled_run (h : db.Consistent) {o : DispatchOutbox} {r : ProductionRun}
    (ho : o ∈ db.outbox.rows) (hr : r ∈ db.runs.rows) (hrun : o.runId = r.runId) :
    Coupled o r := by
  rcases h.coupled o ho with ⟨s, hs, hos⟩
  have hkey : s.runId = r.runId := hos.run.symm.trans hrun
  rwa [Table.eq_of_key hs hr hkey] at hos

theorem attempts (h : db.Consistent) : ∀ o ∈ db.outbox.rows, o.attemptCount ≤ 3 := by
  intro o ho
  rcases h.coupled o ho with ⟨r, _, hor⟩
  exact hor.attempts

end Consistent

/-! ## Counters -/

/-- The counter of a partition goes down by one when a row leaves the queue. -/
theorem readyIn_drop {partitions : Table SchedulerPartition} {organizationId : OrganizationId}
    {set : SchedulerPartition → SchedulerPartition} (status : OutboxStatus)
    (hclosed : ¬ status.active) (hready : 1 ≤ readyIn partitions organizationId)
    (other : OrganizationId)
    (hset : ∀ p, (set p).organizationId = p.organizationId := by intro _; rfl)
    (hone : ∀ p, partitions.get? organizationId = some p →
      (set p).readyCount = p.readyCount - 1 := by intro _ _; rfl) :
    readyIn (partitions.update (fun p => p.organizationId = organizationId) set hset) other =
      readyIn partitions other -
        if other = organizationId ∧ ¬ status.active then 1 else 0 := by
  have hsome := partition_of_ready hready
  rw [readyIn_update (-1) (.inr hsome) other hset hone]
  by_cases horg : other = organizationId
  · simp [horg, hclosed]
    omega
  · simp [horg]

/-- A row that stays in the queue does not count against its partition. -/
theorem ready_kept {n : Int} {org other : OrganizationId} {status : OutboxStatus}
    (h : status.active) : n = n - if org = other ∧ ¬ status.active then 1 else 0 := by
  rw [if_neg fun hc => hc.2 h]
  omega

/-! ## What a transaction does to the dispatch tables -/

/-- The dispatch tables stay as they are, up to new partitions without a backlog and the columns
that only order the partitions. -/
structure Quiet (db after : Db) : Prop where
  runs : after.runs = db.runs
  outbox : after.outbox = db.outbox
  leases : after.leases = db.leases
  ready : ∀ org, after.readyCount org = db.readyCount org
  range : db.InRange → after.InRange

/-- The tables besides those of the queue, the rate buckets and the logs stay as they are. -/
structure SameApprovals (db after : Db) : Prop where
  directory : after.directory = db.directory
  authorities : after.authorities = db.authorities
  requests : after.requests = db.requests
  decisions : after.decisions = db.decisions
  grants : after.grants = db.grants
  idempotency : after.idempotency = db.idempotency

/-- Nothing but audit events, trace events, rate buckets and empty partitions was written. -/
structure Idle (db after : Db) : Prop extends Quiet db after, SameApprovals db after

/-- One active outbox row and its run are rewritten together. -/
structure Move (db after : Db) (o o' : DispatchOutbox) (r r' : ProductionRun) : Prop where
  outbox : Table.Replaces db.outbox after.outbox o o'
  runs : Table.Replaces db.runs after.runs r r'
  outbox_fixed : o'.fixed = o.fixed
  run_fixed : r'.fixed = r.fixed
  active : o.status.active
  before : Coupled o r
  coupled : Coupled o' r'
  dated : r.Dated → r'.Dated
  fence : o'.fencingToken = o.fencingToken ∧
      (o'.status.held → o.status.held ∧ o'.leaseOwnerHash = o.leaseOwnerHash) ∨
    o'.fencingToken = o.fencingToken + 1 ∧ o'.status = .leased
  leases : after.leases = db.leases ∨ ∃ lease hfresh,
    after.leases = db.leases.insert lease hfresh ∧ lease.outboxId = o.outboxId ∧
      lease.fencingToken = o.fencingToken ∧
      (o'.fencingToken = o.fencingToken → ¬ o'.status.held)
  ready : 1 ≤ db.readyCount o.organizationId → ∀ org, after.readyCount org =
    db.readyCount org - if org = o.organizationId ∧ ¬ o'.status.active then 1 else 0
  range : db.InRange → after.InRange

/-- A run and its new outbox row enter the queue, and the counter is increased. -/
structure Enqueue (db after : Db) (o : DispatchOutbox) (r' : ProductionRun) : Prop where
  outbox : ∃ hfresh, after.outbox = db.outbox.insert o hfresh
  runs : (∃ hfresh, after.runs = db.runs.insert r' hfresh) ∨
    ∃ r, r.status = .waitingApproval ∧ r'.fencingToken = r.fencingToken ∧
      Table.Replaces db.runs after.runs r r'
  status : o.status = .ready
  coupled : Coupled o r'
  dated : (∀ s ∈ db.runs.rows, s.Dated) → r'.Dated
  unqueued : ∀ x ∈ db.outbox.rows, x.runId ≠ o.runId
  leases : after.leases = db.leases
  ready : ∀ org, after.readyCount org =
    db.readyCount org + if org = o.organizationId then 1 else 0
  below : db.readyCount o.organizationId < 32
  range : db.InRange → after.InRange

/-- A new run waits for its approval. -/
structure Await (db after : Db) (r : ProductionRun) : Prop where
  runs : ∃ hfresh, after.runs = db.runs.insert r hfresh
  status : r.status = .waitingApproval
  dated : r.Dated
  fence : r.fencingToken = 0
  outbox : after.outbox = db.outbox
  leases : after.leases = db.leases
  ready : ∀ org, after.readyCount org = db.readyCount org
  range : db.InRange → after.InRange

/-- A run that waits for its approval is cancelled. -/
structure Withdraw (db after : Db) (r r' : ProductionRun) : Prop where
  runs : Table.Replaces db.runs after.runs r r'
  waiting : r.status = .waitingApproval
  status : r'.status = .cancelled
  dated : r'.Dated
  fence : r'.fencingToken = r.fencingToken
  outbox : after.outbox = db.outbox
  leases : after.leases = db.leases
  ready : ∀ org, after.readyCount org = db.readyCount org
  range : db.InRange → after.InRange

/-- What a committed transaction does to the dispatch tables. -/
inductive Step (db after : Db) : Prop where
  | quiet (h : Quiet db after)
  | move {o o' : DispatchOutbox} {r r' : ProductionRun} (h : Move db after o o' r r')
  | enqueue {o : DispatchOutbox} {r' : ProductionRun} (h : Enqueue db after o r')
  | await {r : ProductionRun} (h : Await db after r)
  | withdraw {r r' : ProductionRun} (h : Withdraw db after r r')

/-- The tables of the queue are the same in both states. -/
structure SameQueue (db after : Db) : Prop where
  runs : after.runs = db.runs
  outbox : after.outbox = db.outbox
  leases : after.leases = db.leases
  partitions : after.partitions = db.partitions

theorem SameQueue.quiet {db after : Db} (h : SameQueue db after) : Quiet db after where
  runs := h.runs
  outbox := h.outbox
  leases := h.leases
  ready := fun org => by
    unfold readyCount
    rw [h.partitions]
  range := fun hr => by
    unfold InRange
    rw [h.partitions]
    exact hr

theorem SameQueue.move {db mid after : Db} {o o' : DispatchOutbox} {r r' : ProductionRun}
    (h : SameQueue mid after) (hmove : Move db mid o o' r r') : Move db after o o' r r' where
  outbox := h.outbox ▸ hmove.outbox
  runs := h.runs ▸ hmove.runs
  outbox_fixed := hmove.outbox_fixed
  run_fixed := hmove.run_fixed
  active := hmove.active
  before := hmove.before
  coupled := hmove.coupled
  dated := hmove.dated
  fence := hmove.fence
  leases := h.leases ▸ hmove.leases
  ready := fun hready org => (h.quiet.ready org).trans (hmove.ready hready org)
  range := fun hr => h.quiet.range (hmove.range hr)

/-! ## Every step keeps the tables consistent -/

variable {db after : Db} {o o' : DispatchOutbox} {r r' : ProductionRun}

namespace Move

theorem same_run (h : Move db after o o' r r') : o'.runId = o.runId := by
  have hrun := congrArg DispatchOutbox.runId h.outbox_fixed
  exact hrun

theorem same_organization (h : Move db after o o' r r') :
    o'.organizationId = o.organizationId := by
  have horg := congrArg DispatchOutbox.organizationId h.outbox_fixed
  exact horg

theorem fence_le (h : Move db after o o' r r') : o.fencingToken ≤ o'.fencingToken := by
  rcases h.fence with hf | hf
  · rw [hf.1]
  · rw [hf.1]
    omega

theorem consistent (h : Move db after o o' r r') (hc : db.Consistent) : after.Consistent where
  coupled := by
    intro x hx
    rcases h.outbox.mem_iff.mp hx with rfl | ⟨hold, hkey⟩
    · exact ⟨r', h.runs.new_mem, h.coupled⟩
    · rcases hc.coupled x hold with ⟨s, hs, hxs⟩
      refine ⟨s, h.runs.mem_iff.mpr (.inr ⟨hs, ?_⟩), hxs⟩
      -- Another row of the same run would be the row that moves.
      intro hsr
      have hrun : x.runId = o.runId := by
        rw [hxs.run, h.before.run]
        exact hsr
      rw [hc.single x hold o h.outbox.mem hrun] at hkey
      exact hkey rfl
  single := by
    intro x hx y hy hrun
    rcases h.outbox.mem_iff.mp hx with rfl | ⟨hx, hxkey⟩
    · rcases h.outbox.mem_iff.mp hy with rfl | ⟨hy, hykey⟩
      · rfl
      · rw [h.same_run] at hrun
        rw [← hc.single o h.outbox.mem y hy hrun] at hykey
        exact absurd rfl hykey
    · rcases h.outbox.mem_iff.mp hy with rfl | ⟨hy, hykey⟩
      · rw [h.same_run] at hrun
        rw [hc.single x hx o h.outbox.mem hrun] at hxkey
        exact absurd rfl hxkey
      · exact hc.single x hx y hy hrun
  waiting := by
    intro s hs hwait x hx
    rcases h.runs.mem_iff.mp hs with rfl | ⟨hs, hskey⟩
    · exact absurd hwait (OutboxStatus.agrees_not_waiting h.coupled.status)
    · rcases h.outbox.mem_iff.mp hx with rfl | ⟨hx, _⟩
      · intro hrun
        rw [h.same_run, h.before.run] at hrun
        exact hskey hrun.symm
      · exact hc.waiting s hs hwait x hx
  unleased := by
    intro s hs hwait
    rcases h.runs.mem_iff.mp hs with rfl | ⟨hs, _⟩
    · exact absurd hwait (OutboxStatus.agrees_not_waiting h.coupled.status)
    · exact hc.unleased s hs hwait
  leases := by
    have hkept : ∀ l ∈ db.leases.rows, ∃ x ∈ after.outbox.rows, x.outboxId = l.outboxId ∧
        l.fencingToken ≤ x.fencingToken ∧
        (l.fencingToken = x.fencingToken → ¬ x.status.held) := by
      intro l hl
      rcases hc.leases l hl with ⟨x, hx, hid, hle, hheld⟩
      by_cases hkey : x.outboxId = o.outboxId
      · have hxo : x = o := Table.eq_of_key hx h.outbox.mem hkey
        subst hxo
        refine ⟨o', h.outbox.new_mem, h.outbox.same_key.trans hid, ?_, ?_⟩
        · exact Nat.le_trans hle h.fence_le
        · intro hfence
          rcases h.fence with hf | hf
          · intro ho'
            exact hheld (hfence.trans hf.1) (hf.2 ho').1
          · omega
      · exact ⟨x, h.outbox.mem_iff.mpr (.inr ⟨hx, hkey⟩), hid, hle, hheld⟩
    intro l hl
    rcases h.leases with hsame | ⟨lease, hfresh, hins, hid, hf, hheld⟩
    · rw [hsame] at hl
      exact hkept l hl
    · rw [hins] at hl
      rcases (Table.mem_insert hfresh).mp hl with hold | rfl
      · exact hkept l hold
      · refine ⟨o', h.outbox.new_mem, h.outbox.same_key.trans hid.symm, ?_, ?_⟩
        · rw [hf]
          exact h.fence_le
        · intro heq
          exact hheld (heq.symm.trans hf)

end Move

/-- A row whose run waits would be coupled with a status that no row goes with. -/
theorem ne_waiting {x : DispatchOutbox} {s : ProductionRun} (hxs : Coupled x s)
    (hr : r.status = .waitingApproval) (hmem : r ∈ db.runs.rows) (hs : s ∈ db.runs.rows) : s.runId ≠ r.runId := by
  intro hkey
  rw [Table.eq_of_key hs hmem hkey] at hxs
  exact OutboxStatus.agrees_not_waiting hxs.status hr

namespace Enqueue

theorem mem_runs (h : Enqueue db after o r') : r' ∈ after.runs.rows := by
  rcases h.runs with ⟨hfresh, hins⟩ | ⟨r, _, _, hrep⟩
  · rw [hins]
    exact (Table.mem_insert hfresh).mpr (.inr rfl)
  · exact hrep.new_mem

/-- The runs that the step does not touch. -/
theorem run_kept (h : Enqueue db after o r') {x : DispatchOutbox}
    {s : ProductionRun} (hs : s ∈ db.runs.rows) (hxs : Coupled x s) : s ∈ after.runs.rows := by
  rcases h.runs with ⟨hfresh, hins⟩ | ⟨r, hwait, _, hrep⟩
  · rw [hins]
    exact (Table.mem_insert hfresh).mpr (.inl hs)
  · exact hrep.mem_iff.mpr (.inr ⟨hs, ne_waiting hxs hwait hrep.mem hs⟩)

/-- The new run has a key of its own. -/
theorem other_run (h : Enqueue db after o r') {s : ProductionRun}
    (hs : s ∈ after.runs.rows) : s = r' ∨ s ∈ db.runs.rows ∧ s.runId ≠ r'.runId := by
  rcases h.runs with ⟨hfresh, hins⟩ | ⟨r, _, _, hrep⟩
  · rw [hins] at hs
    rcases (Table.mem_insert hfresh).mp hs with hold | rfl
    · exact .inr ⟨hold, Table.get?_eq_none.mp hfresh s hold⟩
    · exact .inl rfl
  · rcases hrep.mem_iff.mp hs with rfl | ⟨hold, hkey⟩
    · exact .inl rfl
    · refine .inr ⟨hold, ?_⟩
      have hsame : r'.runId = r.runId := hrep.same_key
      rw [hsame]
      exact hkey

theorem consistent (h : Enqueue db after o r') (hc : db.Consistent) :
    after.Consistent := by
  rcases h.outbox with ⟨hfresh, hout⟩
  have hmem : ∀ x, x ∈ after.outbox.rows ↔ x ∈ db.outbox.rows ∨ x = o := by
    intro x
    rw [hout]
    exact Table.mem_insert hfresh
  refine ⟨?_, ?_, ?_, ?_, ?_⟩
  · intro x hx
    rcases (hmem x).mp hx with hold | rfl
    · rcases hc.coupled x hold with ⟨s, hs, hxs⟩
      exact ⟨s, h.run_kept hs hxs, hxs⟩
    · exact ⟨r', h.mem_runs, h.coupled⟩
  · intro x hx y hy hrun
    rcases (hmem x).mp hx with hx | rfl
    · rcases (hmem y).mp hy with hy | rfl
      · exact hc.single x hx y hy hrun
      · exact absurd hrun (h.unqueued x hx)
    · rcases (hmem y).mp hy with hy | rfl
      · exact absurd hrun.symm (h.unqueued y hy)
      · rfl
  · intro s hs hwait x hx
    rcases h.other_run hs with rfl | ⟨hs, hne⟩
    · exact absurd hwait (OutboxStatus.agrees_not_waiting h.coupled.status)
    · rcases (hmem x).mp hx with hold | rfl
      · exact hc.waiting s hs hwait x hold
      · rw [h.coupled.run]
        exact hne.symm
  · intro s hs hwait
    rcases h.other_run hs with rfl | ⟨hs, _⟩
    · exact absurd hwait (OutboxStatus.agrees_not_waiting h.coupled.status)
    · exact hc.unleased s hs hwait
  · intro l hl
    rw [h.leases] at hl
    rcases hc.leases l hl with ⟨x, hx, hrest⟩
    exact ⟨x, (hmem x).mpr (.inl hx), hrest⟩

end Enqueue

theorem Await.consistent (h : Await db after r) (hc : db.Consistent) : after.Consistent := by
  rcases h.runs with ⟨hfresh, hins⟩
  refine ⟨?_, ?_, ?_, ?_, ?_⟩
  · rw [h.outbox, hins]
    intro x hx
    rcases hc.coupled x hx with ⟨s, hs, hxs⟩
    exact ⟨s, (Table.mem_insert hfresh).mpr (.inl hs), hxs⟩
  · rw [h.outbox]
    exact hc.single
  · rw [h.outbox, hins]
    intro s hs hwait x hx
    rcases (Table.mem_insert hfresh).mp hs with hold | rfl
    · exact hc.waiting s hold hwait x hx
    · rcases hc.coupled x hx with ⟨t, ht, hxt⟩
      rw [hxt.run]
      exact Table.get?_eq_none.mp hfresh t ht
  · rw [hins]
    intro s hs hwait
    rcases (Table.mem_insert hfresh).mp hs with hold | rfl
    · exact hc.unleased s hold hwait
    · exact h.fence
  · rw [h.outbox, h.leases]
    exact hc.leases

theorem Withdraw.consistent (h : Withdraw db after r r') (hc : db.Consistent) :
    after.Consistent := by
  refine ⟨?_, ?_, ?_, ?_, ?_⟩
  · rw [h.outbox]
    intro x hx
    rcases hc.coupled x hx with ⟨s, hs, hxs⟩
    have hne := ne_waiting hxs h.waiting h.runs.mem hs
    exact ⟨s, h.runs.mem_iff.mpr (.inr ⟨hs, hne⟩), hxs⟩
  · rw [h.outbox]
    exact hc.single
  · rw [h.outbox]
    intro s hs hwait x hx
    rcases h.runs.mem_iff.mp hs with rfl | ⟨hold, _⟩
    · rw [h.status] at hwait
      cases hwait
    · exact hc.waiting s hold hwait x hx
  · intro s hs hwait
    rcases h.runs.mem_iff.mp hs with rfl | ⟨hold, _⟩
    · rw [h.status] at hwait
      cases hwait
    · exact hc.unleased s hold hwait
  · rw [h.outbox, h.leases]
    exact hc.leases

theorem Step.consistent (hstep : Step db after) (hc : db.Consistent) : after.Consistent := by
  cases hstep with
  | quiet h =>
      refine ⟨?_, ?_, ?_, ?_, ?_⟩
      · rw [h.outbox, h.runs]
        exact hc.coupled
      · rw [h.outbox]
        exact hc.single
      · rw [h.outbox, h.runs]
        exact hc.waiting
      · rw [h.runs]
        exact hc.unleased
      · rw [h.outbox, h.leases]
        exact hc.leases
  | move h => exact h.consistent hc
  | enqueue h => exact h.consistent hc
  | await h => exact h.consistent hc
  | withdraw h => exact h.consistent hc

theorem Step.range (hstep : Step db after) (hr : db.InRange) : after.InRange := by
  cases hstep with
  | quiet h => exact h.range hr
  | move h => exact h.range hr
  | enqueue h => exact h.range hr
  | await h => exact h.range hr
  | withdraw h => exact h.range hr

/-- Every step keeps the ends of the runs dated. -/
theorem Step.dated (h : Step db after) (hdb : ∀ s ∈ db.runs.rows, s.Dated) :
    ∀ s ∈ after.runs.rows, s.Dated := by
  cases h with
  | quiet h =>
    rw [h.runs]
    exact hdb
  | move h => exact h.runs.forall_rows hdb (h.dated (hdb _ h.runs.mem))
  | enqueue h =>
    rcases h.runs with ⟨hfresh, hruns⟩ | ⟨r, _, _, hreplaces⟩
    · rw [hruns]
      exact Table.forall_insert hfresh hdb (h.dated hdb)
    · exact hreplaces.forall_rows hdb (h.dated hdb)
  | await h =>
    obtain ⟨hfresh, hruns⟩ := h.runs
    rw [hruns]
    exact Table.forall_insert hfresh hdb h.dated
  | withdraw h => exact h.runs.forall_rows hdb h.dated

/-! ## Idle prefixes -/

namespace Quiet

theorem trans {mid : Db} (h : Quiet db mid) (h' : Quiet mid after) : Quiet db after where
  runs := h'.runs.trans h.runs
  outbox := h'.outbox.trans h.outbox
  leases := h'.leases.trans h.leases
  ready := fun org => (h'.ready org).trans (h.ready org)
  range := fun hr => h'.range (h.range hr)

theorem move {mid : Db} (h : Quiet db mid) (h' : Move mid after o o' r r') :
    Move db after o o' r r' where
  outbox := h.outbox ▸ h'.outbox
  runs := h.runs ▸ h'.runs
  outbox_fixed := h'.outbox_fixed
  run_fixed := h'.run_fixed
  active := h'.active
  before := h'.before
  coupled := h'.coupled
  dated := h'.dated
  fence := h'.fence
  leases := h.leases ▸ h'.leases
  ready := by
    intro hready org
    rw [← h.ready] at hready
    rw [h'.ready hready org, h.ready]
  range := fun hr => h'.range (h.range hr)

theorem enqueue {mid : Db} (h : Quiet db mid) (h' : Enqueue mid after o r') :
    Enqueue db after o r' where
  outbox := h.outbox ▸ h'.outbox
  runs := h.runs ▸ h'.runs
  status := h'.status
  coupled := h'.coupled
  dated := h.runs ▸ h'.dated
  unqueued := h.outbox ▸ h'.unqueued
  leases := h'.leases.trans h.leases
  ready := by
    intro org
    rw [h'.ready org, h.ready]
  below := h.ready o.organizationId ▸ h'.below
  range := fun hr => h'.range (h.range hr)

theorem await {mid : Db} (h : Quiet db mid) (h' : Await mid after r) : Await db after r where
  runs := h.runs ▸ h'.runs
  status := h'.status
  dated := h'.dated
  fence := h'.fence
  outbox := h'.outbox.trans h.outbox
  leases := h'.leases.trans h.leases
  ready := fun org => (h'.ready org).trans (h.ready org)
  range := fun hr => h'.range (h.range hr)

theorem withdraw {mid : Db} (h : Quiet db mid) (h' : Withdraw mid after r r') :
    Withdraw db after r r' where
  runs := h.runs ▸ h'.runs
  waiting := h'.waiting
  status := h'.status
  dated := h'.dated
  fence := h'.fence
  outbox := h'.outbox.trans h.outbox
  leases := h'.leases.trans h.leases
  ready := fun org => (h'.ready org).trans (h.ready org)
  range := fun hr => h'.range (h.range hr)

end Quiet

namespace Idle

theorem refl (db : Db) : Idle db db where
  runs := rfl
  outbox := rfl
  leases := rfl
  ready := fun _ => rfl
  range := fun hr => hr
  directory := rfl
  authorities := rfl
  requests := rfl
  decisions := rfl
  grants := rfl
  idempotency := rfl

theorem trans {mid : Db} (h : Idle db mid) (h' : Idle mid after) : Idle db after where
  toQuiet := h.toQuiet.trans h'.toQuiet
  directory := h'.directory.trans h.directory
  authorities := h'.authorities.trans h.authorities
  requests := h'.requests.trans h.requests
  decisions := h'.decisions.trans h.decisions
  grants := h'.grants.trans h.grants
  idempotency := h'.idempotency.trans h.idempotency

end Idle

end Db

end FlowPilot
