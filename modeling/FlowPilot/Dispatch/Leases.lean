import FlowPilot.Dispatch.Service

/-!
# Lease history

When an operation of the worker can violate a constraint of the database.  The row of a live
lease can always be written to the history; the row of a released one cannot, and `claim_next`
tries to exactly when it has to end a released run.
-/

open Relation FlowPilot.Lib

namespace FlowPilot

open Control (ActorContext Plane)
open Worker (WorkItem Repository Locked Issued)

/-! ## What makes a lease writable -/

/-- The lease of the row can be written to the history. -/
structure Recordable (db : Db) (o : DispatchOutbox) : Prop where
  row : o ∈ db.outbox.rows
  run : ∃ r ∈ db.runs.rows, r.organizationId = o.organizationId ∧ r.runId = o.runId
  fresh : ∀ l ∈ db.leases.rows, l.outboxId = o.outboxId → l.fencingToken ≠ o.fencingToken
  held : ∃ r, Held o r
  attempts : o.attemptCount ≤ 3

theorem Db.Consistent.recordable {db : Db} (hc : db.Consistent) {o : DispatchOutbox}
    (ho : o ∈ db.outbox.rows) (hheld : o.status.held) : Recordable db o where
  row := ho
  run := by
    rcases hc.coupled o ho with ⟨r, hr, hor⟩
    exact ⟨r, hr, hor.organization.symm, hor.run.symm⟩
  fresh := by
    intro l hl hid hfence
    rcases hc.leases l hl with ⟨x, hx, hxid, _, hopen⟩
    have hxo : x = o := Table.eq_of_key hx ho (hxid.trans hid)
    subst hxo
    exact hopen hfence hheld
  held := by
    rcases hc.coupled o ho with ⟨r, _, hor⟩
    exact ⟨r, hor.held hheld⟩
  attempts := hc.attempts o ho

theorem leaseHistory_avoids {db : Db} {o : DispatchOutbox} {status : LeaseStatus} {now : Time}
    (h : o.fencingToken = 0 ∨ Recordable db o) :
    Avoids .integrityError (Worker.leaseHistory db o status now) := by
  unfold Worker.leaseHistory
  split
  · exact Avoids.ok _ _
  next hlive =>
    have hrec : Recordable db o := by
      rcases h with hzero | hrec
      · exact absurd (.inl (by omega)) hlive
      · exact hrec
    rcases hrec.held with ⟨s, hheld⟩
    rcases hrec.run with ⟨r, hr, horg, hrunId⟩
    have hrow : (db.outbox.one? fun x => x.organizationId = o.organizationId ∧
        x.outboxId = o.outboxId).isSome := Table.one?_isSome hrec.row (by simp)
    have hrun : (db.runs.one? fun x => x.organizationId = o.organizationId ∧
        x.runId = o.runId).isSome := Table.one?_isSome hr (by simp [horg, hrunId])
    rcases Option.isSome_iff_exists.mp hheld.owner with ⟨owner, howner⟩
    rcases Option.isSome_iff_exists.mp hheld.leased with ⟨leasedAt, hleased⟩
    rcases Option.isSome_iff_exists.mp hheld.expires with ⟨expires, hexpires⟩
    have hbeat : ∃ t, o.heartbeatAt.or (some leasedAt) = some t := by
      cases o.heartbeatAt with
      | none => exact ⟨leasedAt, rfl⟩
      | some t => exact ⟨t, rfl⟩
    rcases hbeat with ⟨heartbeat, hbeat⟩
    have hfresh : db.leases.get? (o.organizationId, o.outboxId, o.fencingToken) = none := by
      apply Table.get?_eq_none.mpr
      intro l hl hkey
      exact hrec.fresh l hl (congrArg (·.2.1) hkey) (congrArg (·.2.2) hkey)
    unfold Db.insertLease
    simp only [howner, hleased, hexpires, hbeat]
    rw [if_pos ⟨hheld.version, hheld.fence, hheld.attempt, hrec.attempts, hrow, hrun⟩,
      Table.insert?_of_fresh hfresh]
    exact Avoids.ok _ _

section

variable [Sha256] {db : Db}

/-! ## Writes of the worker -/

theorem recordStaleFence_avoids (db : Db) (item : WorkItem) (now : Time) :
    Avoids .integrityError (Worker.recordStaleFence db item now) := by
  unfold Worker.recordStaleFence
  split
  · exact Avoids.ok _ _
  · apply Avoids.bind (Worker.appendAudit_avoids _ _ _ _ _ _ _)
    rintro ⟨sequence, db₁⟩ _
    exact Worker.appendTraceEvent_avoids _ _ _ _ _

theorem stale_avoids (db : Db) (item : WorkItem) (now : Time) :
    Avoids .integrityError (do
      let db ← Worker.recordStaleFence db item now
      .ok (false, db) : Except Failure (Bool × Db)) := by
  apply Avoids.bind (recordStaleFence_avoids _ _ _)
  intro db₁ _
  exact Avoids.ok _ _

theorem failApproval_avoids (w : Repository) (db : Db) (run : ProductionRun)
    (reason : TerminalReason) (now : Time) :
    Avoids .integrityError (Worker.failApproval w db run reason now) := by
  unfold Worker.failApproval
  split
  · dsimp only
    split
    · split
      · apply Avoids.bind (Worker.appendAudit_avoids _ _ _ _ _ _ _)
        rintro ⟨sequence, db₁⟩ _
        exact Avoids.ok _ _
      · exact Avoids.ok _ _
    · exact Avoids.ok _ _
  · exact Avoids.ok _ _

omit [Sha256] in
/-- A row that is not touched in its attempts can always be updated. -/
theorem updateOutbox_same_avoids {where_ : DispatchOutbox → Bool}
    {set : DispatchOutbox → DispatchOutbox} {hset : ∀ o, (set o).outboxId = o.outboxId}
    (hattempts : ∀ o ∈ db.outbox.rows, o.attemptCount ≤ 3)
    (hsame : ∀ o, (set o).attemptCount = o.attemptCount) :
    Avoids .integrityError (db.updateOutbox where_ set hset) := by
  apply Db.updateOutbox_avoids hattempts
  intro o ho _
  rw [hsame]
  exact hattempts o ho

omit [Sha256] in
/-- The counter of a partition with an active row can go down. -/
theorem dropReady_avoids (hcounted : db.Counted) {o : DispatchOutbox}
    (ho : o ∈ db.outbox.rows) (hactive : o.status.active) {mid : Db}
    (hparts : mid.partitions = db.partitions) {organizationId : OrganizationId}
    (horg : organizationId = o.organizationId) {now : Time} :
    Avoids .integrityError (mid.updatePartition organizationId fun p =>
      { p with
        readyCount := p.readyCount - 1
        cursorVersion := p.cursorVersion + 1
        updatedAt := now }) := by
  apply Db.updatePartition_avoids
  · unfold Db.InRange
    rw [hparts]
    exact hcounted.range
  · intro p hp hporg
    rw [hparts] at hp
    have hpositive := hcounted.partition_positive ho hactive hp (hporg.trans horg)
    have hrange := (hcounted.range p hp).2
    dsimp only
    omega

theorem failLocked_avoids {w : Repository} {run : ProductionRun} {outbox : DispatchOutbox}
    {reason : TerminalReason} {now : Time} (hc : db.Consistent) (hcounted : db.Counted)
    (ho : outbox ∈ db.outbox.rows) (hor : Coupled outbox run) (hactive : outbox.status.active)
    (hlease : outbox.fencingToken = 0 ∨ Recordable db outbox) :
    Avoids .integrityError (Worker.failLocked w db run outbox reason now) := by
  unfold Worker.failLocked
  apply Avoids.bind (leaseHistory_avoids hlease)
  intro db₁ h₁
  rcases Worker.leaseHistory_ok h₁ with ⟨leases, rfl, _⟩
  apply Avoids.bind
  · exact updateOutbox_same_avoids hc.attempts fun _ => rfl
  intro db₂ h₂
  rcases Db.updateOutbox_ok h₂ with ⟨rfl, _⟩
  dsimp only
  apply Avoids.bind
  · refine dropReady_avoids hcounted ho hactive ?_ hor.organization.symm
    rfl
  intro db₃ _
  apply Avoids.bind (Worker.appendAudit_avoids _ _ _ _ _ _ _)
  rintro ⟨sequence, db₄⟩ _
  apply Avoids.bind (Worker.appendTraceEvent_avoids _ _ _ _ _)
  intro db₅ _
  apply Avoids.bind (failApproval_avoids _ _ _ _ _)
  intro db₆ _
  exact Avoids.ok _ _

omit [Sha256] in
theorem touchPartition_avoids {organizationId : OrganizationId} {now : Time}
    (hrange : db.InRange) :
    Avoids .integrityError (Worker.touchPartition db organizationId now) := by
  unfold Worker.touchPartition
  apply Db.updatePartition_avoids hrange
  intro p hp _
  exact hrange p hp

/-! ## claim_next -/

theorem expireQueued_avoids {w : Repository} {run : ProductionRun} {outbox : DispatchOutbox}
    {organizationId : OrganizationId} {now : Time} (hc : db.Consistent) (hcounted : db.Counted)
    (ho : outbox ∈ db.outbox.rows) (hactive : outbox.status.active)
    (horg : outbox.organizationId = organizationId)
    (hlease : outbox.fencingToken = 0 ∨ Recordable db outbox) :
    Avoids .integrityError (Worker.expireQueued w db run outbox organizationId now) := by
  unfold Worker.expireQueued
  apply Avoids.bind (leaseHistory_avoids hlease)
  intro db₁ h₁
  rcases Worker.leaseHistory_ok h₁ with ⟨leases, rfl, _⟩
  apply Avoids.bind
  · exact updateOutbox_same_avoids hc.attempts fun _ => rfl
  intro db₂ h₂
  rcases Db.updateOutbox_ok h₂ with ⟨rfl, _⟩
  dsimp only
  apply Avoids.bind
  · refine dropReady_avoids hcounted ho hactive ?_ horg.symm
    rfl
  intro db₃ _
  apply Avoids.bind (Worker.appendAudit_avoids _ _ _ _ _ _ _)
  rintro ⟨sequence, db₄⟩ _
  apply Avoids.bind (Worker.appendTraceEvent_avoids _ _ _ _ _)
  intro db₅ _
  exact Avoids.ok _ _

theorem takeLease_avoids {w : Repository} {run : ProductionRun} {outbox : DispatchOutbox}
    {organizationId : OrganizationId} {now : Time} (hc : db.Consistent) (hcounted : db.Counted)
    (ho : outbox ∈ db.outbox.rows) (hactive : outbox.status.active)
    (hattempt : outbox.attemptCount < 3) :
    Avoids .integrityError (Worker.takeLease w db run outbox organizationId now) := by
  have hclose : Avoids .integrityError (Worker.closeLapsed db outbox now) := by
    unfold Worker.closeLapsed
    split
    next hready =>
      have hheld : outbox.status.held := by
        rcases hactive with h | h | h
        · exact absurd h hready
        · exact .inl h
        · exact .inr h
      exact leaseHistory_avoids (.inr (hc.recordable ho hheld))
    · exact Avoids.ok _ _
  unfold Worker.takeLease
  apply Avoids.bind hclose
  intro db₁ h₁
  rcases Worker.closeLapsed_ok h₁ with ⟨leases, rfl, _⟩
  dsimp only
  split
  · exact Avoids.ok _ _
  apply Avoids.bind
  · exact Db.updateOutbox_avoids hc.attempts fun _ _ _ => hattempt
  intro db₂ h₂
  rcases Db.updateOutbox_ok h₂ with ⟨rfl, _⟩
  split
  · exact Avoids.error (by simp)
  apply Avoids.bind
  · exact touchPartition_avoids hcounted.range
  intro db₃ _
  apply Avoids.bind (Worker.appendAudit_avoids _ _ _ _ _ _ _)
  rintro ⟨sequence, db₄⟩ _
  apply Avoids.bind (Worker.appendTraceEvent_avoids _ _ _ _ _)
  intro db₅ _
  exact Avoids.ok _ _

/-- A row was given back by a release. -/
def Released (o : DispatchOutbox) : Prop := o.status = .ready ∧ 1 ≤ o.fencingToken

/-- The row that `claim_next` selects was released, and is past its queue expiry or out of
attempts. -/
def EndsReleased (db : Db) (locked : Locked) (now : Time) : Prop :=
  ∃ partition outbox, Worker.selectPartition db locked = some partition ∧
    Worker.selectOutbox db locked partition.organizationId now = some outbox ∧
    Released outbox ∧ (outbox.expiresAt ≤ now ∨ Worker.maximumAttempts ≤ outbox.attemptCount)

omit [Sha256] in
/-- A release has cleared the owner that the history asks for. -/
theorem leaseHistory_released {o : DispatchOutbox} {r : ProductionRun} {status : LeaseStatus}
    {now : Time} (hor : Coupled o r) (h : Released o) :
    Worker.leaseHistory db o status now = .error .integrityError := by
  rcases hor.ready h.1 with ⟨hzero, _⟩ | ⟨_, hleased, howner⟩
  · have hfence := h.2
    omega
  · unfold Worker.leaseHistory
    rw [if_neg]
    · unfold Db.insertLease
      simp only [howner]
    · rintro (hzero | hnone)
      · have hfence := h.2
        omega
      · rw [Option.isNone_iff_eq_none] at hnone
        rw [hnone] at hleased
        cases hleased

omit [Sha256] in
theorem Db.Consistent.recordable_unless (hc : db.Consistent) {o : DispatchOutbox}
    (ho : o ∈ db.outbox.rows) (hactive : o.status.active) (h : ¬ Released o) :
    o.fencingToken = 0 ∨ Recordable db o := by
  rcases hactive with hready | hleased | hdispatched
  · have hfence : ¬ 1 ≤ o.fencingToken := fun hf => h ⟨hready, hf⟩
    exact .inl (by omega)
  · exact .inr (hc.recordable ho (.inl hleased))
  · exact .inr (hc.recordable ho (.inr hdispatched))

omit [Sha256] in
/-- What the row that `claim_next` selects is. -/
theorem selected_row {locked : Locked} {organizationId : OrganizationId} {now : Time}
    {outbox : DispatchOutbox}
    (h : Worker.selectOutbox db locked organizationId now = some outbox) :
    outbox ∈ db.outbox.rows ∧ Worker.claimable organizationId now outbox := by
  have ho := Table.firstBy?_mem h
  have hp := ho.2
  simp only [Bool.and_eq_true, decide_eq_true_eq] at hp
  exact ⟨ho.1, hp.1⟩

theorem claimNext_avoids {w : Repository} {locked : Locked} {now : Time} (hc : db.Consistent)
    (hcounted : db.Counted) (h : ¬ EndsReleased db locked now) :
    Avoids .integrityError (Worker.claimNext w locked now db) := by
  unfold Worker.claimNext
  split
  · exact Avoids.ok _ _
  next partition hpartition =>
    dsimp only
    split
    · apply Avoids.bind (touchPartition_avoids hcounted.range)
      intro db₁ _
      exact Avoids.ok _ _
    next outbox hselect =>
      rcases selected_row hselect with ⟨ho, hclaim⟩
      have hactive := Worker.active_of_claimable hclaim
      split
      · exact Avoids.ok _ _
      next run hrun =>
        have hr := Table.one?_mem hrun
        have hkey : outbox.runId = run.runId := (of_decide_eq_true hr.2).2.symm
        have hor := hc.coupled_run ho hr.1 hkey
        split
        next hexpired =>
          have hlive : ¬ Released outbox := fun hrel =>
            h ⟨partition, outbox, hpartition, hselect, hrel, .inl hexpired⟩
          exact expireQueued_avoids hc hcounted ho hactive hclaim.1
            (hc.recordable_unless ho hactive hlive)
        · split
          next hattempts =>
            have hlive : ¬ Released outbox := fun hrel =>
              h ⟨partition, outbox, hpartition, hselect, hrel, .inr hattempts⟩
            apply Avoids.bind (failLocked_avoids hc hcounted ho hor hactive
              (hc.recordable_unless ho hactive hlive))
            rintro ⟨done, db₁⟩ _
            exact Avoids.ok _ _
          next hattempts =>
            exact takeLease_avoids hc hcounted ho hactive (Nat.lt_of_not_le hattempts)

theorem claimNext_aborts {w : Repository} {locked : Locked} {now : Time} (hc : db.Consistent)
    (h : EndsReleased db locked now) :
    Worker.claimNext w locked now db = .error .integrityError := by
  rcases h with ⟨partition, outbox, hpartition, hselect, hrel, hends⟩
  rcases selected_row hselect with ⟨ho, hclaim⟩
  rcases hc.coupled outbox ho with ⟨r, hr, hor⟩
  have hrunOrg : r.organizationId = partition.organizationId :=
    hor.organization.symm.trans hclaim.1
  have hsome : (db.runs.one? fun r => r.organizationId = partition.organizationId ∧
      r.runId = outbox.runId).isSome := Table.one?_isSome hr (by simp [hrunOrg, hor.run])
  rcases Option.isSome_iff_exists.mp hsome with ⟨run, hrun⟩
  unfold Worker.claimNext
  simp only [hpartition, hselect, hrun]
  split
  · unfold Worker.expireQueued
    rw [leaseHistory_released hor hrel]
    rfl
  next hlive =>
    rw [if_pos (hends.resolve_left hlive)]
    unfold Worker.failLocked
    rw [leaseHistory_released hor hrel]
    rfl

theorem claimNext_aborts_iff {w : Repository} {locked : Locked} {now : Time}
    (hc : db.Consistent) (hcounted : db.Counted) :
    Worker.claimNext w locked now db = .error .integrityError ↔ EndsReleased db locked now := by
  constructor
  · intro h
    by_contra hnot
    exact claimNext_avoids hc hcounted hnot h
  · exact claimNext_aborts hc

/-! ## Operations on a work item -/

theorem markStarted_avoids {w : Repository} {item : WorkItem} {now : Time}
    (hc : db.Consistent) (hcounted : db.Counted) (hi : Issued db item) :
    Avoids .integrityError (Worker.markStarted w item now db) := by
  unfold Worker.markStarted
  dsimp only
  split
  next outbox run houtbox hrun =>
    have ho := Table.one?_mem houtbox
    have hr := Table.one?_mem hrun
    rcases of_decide_eq_true ho.2 with ⟨_, hid, hleased, _⟩
    rcases of_decide_eq_true hr.2 with ⟨_, hrunId, _⟩
    have hor := hi.coupled hc ho.1 hr.1 hid hrunId
    split
    · apply Avoids.bind (failLocked_avoids hc hcounted ho.1 hor (.inr (.inl hleased))
        (.inr (hc.recordable ho.1 (.inl hleased))))
      rintro ⟨done, db₁⟩ _
      exact Avoids.ok _ _
    · apply Avoids.bind
      · exact updateOutbox_same_avoids hc.attempts fun _ => rfl
      intro db₁ _
      apply Avoids.bind (Worker.appendAudit_avoids _ _ _ _ _ _ _)
      rintro ⟨sequence, db₂⟩ _
      apply Avoids.bind (Worker.appendTraceEvent_avoids _ _ _ _ _)
      intro db₃ _
      apply Avoids.bind (Worker.appendTraceEvent_avoids _ _ _ _ _)
      intro db₄ _
      exact Avoids.ok _ _
  next => exact stale_avoids _ _ _

theorem heartbeat_avoids {item : WorkItem} {now : Time} (hc : db.Consistent) :
    Avoids .integrityError (Worker.heartbeat item now db) := by
  unfold Worker.heartbeat
  dsimp only
  split
  · exact stale_avoids _ _ _
  · apply Avoids.bind
    · exact updateOutbox_same_avoids hc.attempts fun _ => rfl
    intro db₁ _
    apply Avoids.bind (Worker.appendAudit_avoids _ _ _ _ _ _ _)
    rintro ⟨sequence, db₂⟩ _
    apply Avoids.bind (Worker.appendTraceEvent_avoids _ _ _ _ _)
    intro db₃ _
    exact Avoids.ok _ _

theorem recordDeduplicated_avoids (db : Db) (item : WorkItem) (now : Time) :
    Avoids .integrityError (Worker.recordDeduplicated item now db) := by
  unfold Worker.recordDeduplicated
  dsimp only
  split
  · exact stale_avoids _ _ _
  · apply Avoids.bind (Worker.appendAudit_avoids _ _ _ _ _ _ _)
    rintro ⟨sequence, db₂⟩ _
    apply Avoids.bind (Worker.appendTraceEvent_avoids _ _ _ _ _)
    intro db₃ _
    exact Avoids.ok _ _

theorem fail_avoids {w : Repository} {item : WorkItem} {reason : TerminalReason} {now : Time}
    (hc : db.Consistent) (hcounted : db.Counted) (hi : Issued db item) :
    Avoids .integrityError (Worker.fail w item reason now db) := by
  unfold Worker.fail
  dsimp only
  split
  next outbox run houtbox hrun =>
    have ho := Table.one?_mem houtbox
    have hr := Table.one?_mem hrun
    rcases of_decide_eq_true ho.2 with ⟨_, hid, hheld, _⟩
    rcases of_decide_eq_true hr.2 with ⟨_, hrunId, _⟩
    have hor := hi.coupled hc ho.1 hr.1 hid hrunId
    exact failLocked_avoids hc hcounted ho.1 hor (OutboxStatus.active_of_held hheld)
      (.inr (hc.recordable ho.1 hheld))
  next => exact stale_avoids _ _ _

theorem release_avoids {item : WorkItem} {now : Time} (hc : db.Consistent) :
    Avoids .integrityError (Worker.release item now db) := by
  unfold Worker.release
  split
  · exact stale_avoids _ _ _
  next outbox houtbox =>
    have ho := Table.one?_mem houtbox
    rcases of_decide_eq_true ho.2 with ⟨_, _, hheld, _⟩
    apply Avoids.bind (leaseHistory_avoids (.inr (hc.recordable ho.1 hheld)))
    intro db₁ h₁
    rcases Worker.leaseHistory_ok h₁ with ⟨leases, rfl, _⟩
    apply Avoids.bind
    · exact updateOutbox_same_avoids hc.attempts fun _ => rfl
    intro db₂ _
    apply Avoids.bind (Worker.appendAudit_avoids _ _ _ _ _ _ _)
    rintro ⟨sequence, db₃⟩ _
    apply Avoids.bind (Worker.appendTraceEvent_avoids _ _ _ _ _)
    intro db₄ _
    exact Avoids.ok _ _

/-! ## complete -/

theorem startVerifying_avoids (db : Db) (item : WorkItem) (run : ProductionRun)
    (successful : Bool) (receiptReference : String) (now : Time) :
    Avoids .integrityError
      (Worker.startVerifying db item run successful receiptReference now) := by
  unfold Worker.startVerifying
  split
  · apply Avoids.bind (Worker.appendAudit_avoids _ _ _ _ _ _ _)
    rintro ⟨sequence, db₁⟩ _
    exact Avoids.ok _ _
  · exact Avoids.ok _ _

theorem appendTraceEvents_avoids (db : Db) (organizationId : OrganizationId) (runId : RunId)
    (now : Time) (entries : List TraceEntry) :
    Avoids .integrityError (Worker.appendTraceEvents db organizationId runId now entries) := by
  induction entries generalizing db with
  | nil => exact Avoids.ok _ _
  | cons entry rest ih =>
      unfold Worker.appendTraceEvents
      apply Avoids.bind (Worker.appendTraceEvent_avoids _ _ _ _ _)
      intro db₁ _
      exact ih db₁

theorem completeApproval_avoids (db : Db) (item : WorkItem) (successful : Bool)
    (receiptReference : String) (now : Time) :
    Avoids .integrityError
      (Worker.completeApproval db item successful receiptReference now) := by
  unfold Worker.completeApproval
  split
  · dsimp only
    split
    · exact Avoids.error (by simp)
    · apply Avoids.bind (Worker.appendAudit_avoids _ _ _ _ _ _ _)
      rintro ⟨sequence, db₁⟩ _
      exact Avoids.ok _ _
  · apply Avoids.bind (Worker.appendAudit_avoids _ _ _ _ _ _ _)
    rintro ⟨sequence, db₁⟩ _
    exact Avoids.ok _ _

theorem completeLocked_avoids {item : WorkItem} {run : ProductionRun} {outbox : DispatchOutbox}
    {outcome : Worker.TemporalOutcome} {now : Time} (hc : db.Consistent)
    (hcounted : db.Counted) (ho : outbox ∈ db.outbox.rows) (hr : run ∈ db.runs.rows)
    (hor : Coupled outbox run) (hheld : outbox.status.held)
    (hrunOrg : run.organizationId = item.organizationId) (hrunId : run.runId = item.runId)
    (hfence : run.fencingToken = item.fencingToken) :
    Avoids .integrityError (Worker.completeLocked db item run outbox outcome now) := by
  unfold Worker.completeLocked
  apply Avoids.bind (startVerifying_avoids _ _ _ _ _ _)
  intro db₁ hverify
  rcases Worker.startVerifying_ok hr hrunOrg hrunId hfence hverify with
    ⟨runs, audit, r₁, rfl, hruns, hfixed, _⟩
  have hold := hc.recordable ho hheld
  -- The history still finds the run: only its status has changed.
  have hrec : Recordable { db with runs := runs, audit := audit } outbox :=
    { row := ho
      run := by
        have horg := congrArg ProductionRun.organizationId hfixed
        exact ⟨r₁, hruns.new_mem, horg.trans hor.organization.symm,
          hruns.same_key.trans hor.run.symm⟩
      fresh := hold.fresh
      held := hold.held
      attempts := hold.attempts }
  apply Avoids.bind (leaseHistory_avoids (.inr hrec))
  intro db₂ hlease
  rcases Worker.leaseHistory_ok hlease with ⟨leases, rfl, _⟩
  apply Avoids.bind
  · exact updateOutbox_same_avoids hc.attempts fun _ => rfl
  intro db₃ hout
  rcases Db.updateOutbox_ok hout with ⟨rfl, _⟩
  dsimp only
  apply Avoids.bind
  · refine dropReady_avoids hcounted ho (OutboxStatus.active_of_held hheld) ?_
      (hrunOrg.symm.trans hor.organization.symm)
    rfl
  intro db₄ _
  apply Avoids.bind (Worker.appendAudit_avoids _ _ _ _ _ _ _)
  rintro ⟨sequence, db₅⟩ _
  apply Avoids.bind (appendTraceEvents_avoids _ _ _ _ _)
  intro db₆ _
  apply Avoids.bind (completeApproval_avoids _ _ _ _ _)
  intro db₇ _
  exact Avoids.ok _ _

theorem complete_avoids {w : Repository} {item : WorkItem} {outcome : Worker.TemporalOutcome}
    {now : Time} (hc : db.Consistent) (hcounted : db.Counted) (hi : Issued db item) :
    Avoids .integrityError (Worker.complete w item outcome now db) := by
  unfold Worker.complete
  dsimp only
  split
  next outbox run houtbox hrun =>
    have ho := Table.one?_mem houtbox
    have hr := Table.one?_mem hrun
    rcases of_decide_eq_true ho.2 with ⟨_, hid, hstatus, _⟩
    rcases of_decide_eq_true hr.2 with ⟨hrunOrg, hrunId, _, _, hfence⟩
    have hor := hi.coupled hc ho.1 hr.1 hid hrunId
    have hheld : outbox.status.held := .inr hstatus
    split
    · exact failLocked_avoids hc hcounted ho.1 hor (OutboxStatus.active_of_held hheld)
        (.inr (hc.recordable ho.1 hheld))
    · exact completeLocked_avoids hc hcounted ho.1 hr.1 hor hheld hrunOrg hrunId hfence
  next => exact stale_avoids _ _ _

/-! ## cancel_production_run -/

omit [Sha256] in
theorem ensureBucket_avoids (db : Db) (organizationId : OrganizationId) (bucketKeyHash : Digest)
    (scopeKind : ScopeKind) (routeClass : RouteClass) (burst : Nat) (now : Time) :
    Avoids .integrityError
      (Control.ensureBucket db organizationId bucketKeyHash scopeKind routeClass burst now) := by
  unfold Control.ensureBucket
  dsimp only
  split
  · exact Avoids.error (by simp)
  · exact Avoids.ok _ _

theorem rateLimit_avoids (db : Db) (actor : ActorContext) (routeClass : RouteClass)
    (subjectReference : String) (now : Time) :
    Avoids .integrityError
      (Control.consumeRateLimitOrAudit db actor routeClass subjectReference now) := by
  have hconsume : Avoids .integrityError
      (Control.consumeRateLimit db actor routeClass now) := by
    unfold Control.consumeRateLimit
    apply Avoids.bind (ensureBucket_avoids _ _ _ _ _ _ _)
    rintro ⟨actorBucket, db₁⟩ _
    apply Avoids.bind (ensureBucket_avoids _ _ _ _ _ _ _)
    rintro ⟨organizationBucket, db₂⟩ _
    dsimp only
    split
    · exact Avoids.ok _ _
    · exact Avoids.ok _ _
  unfold Control.consumeRateLimitOrAudit
  apply Avoids.bind hconsume
  rintro ⟨limited, db₁⟩ _
  dsimp only
  split
  · exact Avoids.ok _ _
  · apply Avoids.bind (Control.appendAuditEvent_avoids _ _ _ _ _ _ _)
    rintro ⟨sequence, db₂⟩ _
    exact Avoids.ok _ _

theorem cancelApproval_avoids (actor : ActorContext) (organizationId : OrganizationId)
    (requestId : Option RequestId) (now : Time) (db : Db) :
    Avoids .integrityError
      (Control.cancelApproval actor organizationId requestId now db) := by
  unfold Control.cancelApproval
  split
  · exact Avoids.ok _ _
  next requestId =>
    apply Avoids.bind
    · unfold Control.cancelRequest
      split
      · exact Avoids.ok _ _
      · split
        · apply Avoids.bind (Control.appendAuditEvent_avoids _ _ _ _ _ _ _)
          rintro ⟨sequence, db₁⟩ _
          exact Avoids.ok _ _
        · exact Avoids.ok _ _
    · intro db₁ _
      unfold Control.cancelGrant
      split
      · exact Avoids.ok _ _
      · split
        · dsimp only
          split
          · apply Avoids.bind (Control.appendAuditEvent_avoids _ _ _ _ _ _ _)
            rintro ⟨sequence, db₂⟩ _
            exact Avoids.ok _ _
          · exact Avoids.ok _ _
        · exact Avoids.ok _ _

theorem cancelLocked_avoids {actor : ActorContext} {organizationId : OrganizationId}
    {run : ProductionRun} {outbox : Option DispatchOutbox} {now : Time} {plane : Plane}
    (hattempts : ∀ o ∈ db.outbox.rows, o.attemptCount ≤ 3) (hrange : db.InRange) :
    Avoids .integrityError
      (Control.cancelLocked actor organizationId run outbox now plane db) := by
  unfold Control.cancelLocked
  apply Avoids.bind
  · unfold Control.cancelOutbox
    split
    · exact Avoids.ok _ _
    · apply Avoids.bind
      · exact updateOutbox_same_avoids hattempts fun _ => rfl
      intro db₁ h₁
      rcases Db.updateOutbox_ok h₁ with ⟨rfl, _⟩
      refine Db.updatePartition_avoids ?_ ?_
      · exact hrange
      -- The floor at zero keeps the counter in range whatever it was.
      intro p hp _
      have hp32 := (hrange p hp).2
      dsimp only
      omega
  intro db₁ _
  apply Avoids.bind (cancelApproval_avoids _ _ _ _ _)
  rintro ⟨grantId, db₂⟩ _
  apply Avoids.bind (Control.appendAuditEvent_avoids _ _ _ _ _ _ _)
  rintro ⟨sequence, db₃⟩ _
  apply Avoids.bind (Control.appendObservabilityEvent_avoids _ _ _ _ _)
  intro db₄ _
  exact Avoids.ok _ _

theorem cancel_avoids {actor : ActorContext} {organizationId : OrganizationId} {runId : RunId}
    {expectedVersion : Nat} {now : Time} {current : Option ProductionRun} {plane : Plane}
    (hc : plane.db.Consistent) (hrange : plane.db.InRange) :
    Avoids .integrityError (Control.cancelProductionRun actor organizationId runId
      expectedVersion now current plane) := by
  unfold Control.cancelProductionRun
  split
  · exact Avoids.error (by simp)
  apply Avoids.bind (rateLimit_avoids _ _ _ _ _)
  rintro ⟨limited, db₁⟩ hlimit
  have hidle := Control.rateLimit_idle hlimit
  have hensure := hidle.trans (Control.ensurePartition_idle db₁ organizationId now).1
  dsimp only
  split
  · exact Avoids.ok _ _
  split
  · exact Avoids.error (by simp)
  split
  · exact Avoids.error (by simp)
  split
  · split
    · exact Avoids.error (by simp)
    · exact cancelLocked_avoids (Control.idle_consistent hidle hc).attempts (hidle.range hrange)
  · split
    · split
      · exact Avoids.error (by simp)
      · split
        · exact Avoids.error (by simp)
        · exact cancelLocked_avoids (Control.idle_consistent hensure hc).attempts
            (hensure.range hrange)
    · exact Avoids.error (by simp)

/-! ## Calls in any order -/

/-- Whatever is called on an issued work item, its lease can be written to the history. -/
theorem Call.item_avoids {c : Call} {item : WorkItem} {plane : Plane} (hc : plane.db.Consistent)
    (hcounted : plane.db.Counted) (hitem : c.item? = some item) (hi : Issued plane.db item) :
    Avoids .integrityError (c.commit plane) := by
  have hdb : ∀ {body : Except Failure (Bool × Db)}, Avoids .integrityError body →
      Avoids .integrityError (onDb plane (fun _ => none) body) := by
    intro body hbody herror
    unfold onDb at herror
    split at herror
    · cases herror
      exact hbody rfl
    · cases herror
  cases c <;> cases hitem
  case markStarted w now => exact hdb (markStarted_avoids hc hcounted hi)
  case heartbeat w now => exact hdb (heartbeat_avoids hc)
  case recordDeduplicated w now => exact hdb (recordDeduplicated_avoids _ _ _)
  case complete w outcome now => exact hdb (complete_avoids hc hcounted hi)
  case fail w reason now => exact hdb (fail_avoids hc hcounted hi)
  case release w now => exact hdb (release_avoids hc)

theorem Call.claimNext_error {w : Repository} {locked : Locked} {now : Time} {plane : Plane} :
    (Call.claimNext w locked now).commit plane = .error .integrityError ↔
      Worker.claimNext w locked now plane.db = .error .integrityError := by
  show onDb plane id (Worker.claimNext w locked now plane.db) = _ ↔ _
  unfold onDb
  cases Worker.claimNext w locked now plane.db with
  | error e => simp
  | ok result => simp

theorem lease_history_blocks_iff (directory : Directory) (authorities : Table ApprovalAuthority)
    (heads : Table AuditChainHead) (world : World)
    (hrun : ReflTransGen World.Step (World.start directory authorities heads) world) :
    (∀ w locked now, (Call.claimNext w locked now).commit world.plane = .error .integrityError ↔
      EndsReleased world.plane.db locked now) ∧
    (∀ (c : Call) item, c.item? = some item → item ∈ world.items →
      c.commit world.plane ≠ .error .integrityError) ∧
    (∀ actor organizationId runId expectedVersion now current,
      (Call.cancel actor organizationId runId expectedVersion now current).commit world.plane ≠
        .error .integrityError) := by
  rcases World.counted_of_run (World.valid_start directory authorities heads)
    (Db.Counted.initial directory authorities heads) hrun with ⟨hv, hcounted⟩
  refine ⟨?_, ?_, ?_⟩
  · intro w locked now
    rw [Call.claimNext_error]
    exact claimNext_aborts_iff hv.consistent hcounted
  · intro c item hitem hmem
    exact Call.item_avoids hv.consistent hcounted hitem (hv.issued item hmem)
  · intro actor organizationId runId expectedVersion now current herror
    have havoids : Avoids .integrityError (Control.cancelProductionRun actor organizationId runId
        expectedVersion now current world.plane) := cancel_avoids hv.consistent hcounted.range
    change onPlane _ = _ at herror
    unfold onPlane at herror
    split at herror
    next hbody =>
      cases herror
      exact havoids hbody
    next => cases herror

end

section

attribute [local instance] polynomialSha256

/-- The lease is released, and nobody takes the run before its queue expiry. -/
def Sample.released : World :=
  Sample.leased.perform (.release Sample.worker Sample.item (2 * second))

theorem Sample.released_run : ReflTransGen World.SerialStep Sample.start Sample.released := by
  refine World.perform_serial Sample.leased_run ?_ ?_
  · trivial
  · intro i hi
    rw [← Option.some.inj hi]
    exact Sample.item_mem

theorem Sample.released_aborts :
    (Sample.claim (Control.queueTtl + 2 * second)).commit Sample.released.plane =
      .error .integrityError := error_of_raises (by decide +kernel)

/-- After the expiry every `claim_next` fails, because it tries to end the released run. -/
theorem released_run_blocks_claims :
    ∃ world, ReflTransGen World.SerialStep Sample.start world ∧
      (Sample.claim (Control.queueTtl + 2 * second)).commit world.plane =
        .error .integrityError :=
  ⟨Sample.released, Sample.released_run, Sample.released_aborts⟩

theorem lease_history_blocks_iff_sample :
    EndsReleased Sample.released.plane.db .nothing (Control.queueTtl + 2 * second) ∧
      (Call.fail Sample.worker Sample.item .workerDrained (2 * second)).commit
        Sample.leased.plane ≠ .error .integrityError :=
  ⟨((lease_history_blocks_iff Sample.directory .empty Sample.heads Sample.released
      (World.run_of_serial Sample.released_run)).1 _ _ _).mp Sample.released_aborts,
    (lease_history_blocks_iff Sample.directory .empty Sample.heads Sample.leased
      (World.run_of_serial Sample.leased_run)).2.1 _ _ rfl Sample.item_mem⟩

end

end FlowPilot
