import FlowPilot.Dispatch.Coupling
import FlowPilot.Worker.Complete

/-!
# What the worker's operations do to the dispatch tables

Every committed operation of the repository is a `Step`.  The operations find their rows by key,
token and owner under locks, so each of them rewrites one outbox row and its run or nothing.
-/

open FlowPilot.Lib

namespace FlowPilot.Worker

variable [Sha256] {db after : Db}

/-! ## Work items -/

/-- The item was made from the run and the outbox row, under a token that is not ahead of the
row's. -/
structure IssuedFor (item : WorkItem) (o : DispatchOutbox) (r : ProductionRun) : Prop where
  run : o.runId = r.runId
  terms : item = workItem r o item.fencingToken item.leaseVersion item.attemptCount
    item.leasedAt item.leaseExpiresAt item.workerOwnerHash
  positive : 1 ≤ item.fencingToken
  fence : item.fencingToken ≤ o.fencingToken

def Issued (db : Db) (item : WorkItem) : Prop :=
  ∃ o ∈ db.outbox.rows, ∃ r ∈ db.runs.rows, IssuedFor item o r

/-- The token and the owner of the item are the current ones of its outbox row. -/
def Current (db : Db) (item : WorkItem) : Prop :=
  ∃ o ∈ db.outbox.rows, o.organizationId = item.organizationId ∧ o.outboxId = item.outboxId ∧
    o.leaseOwnerHash = some item.workerOwnerHash ∧ o.fencingToken = item.fencingToken

omit [Sha256] in
theorem workItem_fixed {r r' : ProductionRun} {o o' : DispatchOutbox} (hr : r'.fixed = r.fixed)
    (ho : o'.fixed = o.fixed) : workItem r' o' = workItem r o := by
  have hitem : workItem r'.fixed o'.fixed = workItem r.fixed o.fixed := by rw [hr, ho]
  exact hitem

/-! ## Rows that every operation writes the same way -/

/-- The lease history is as it was or has the row's lease in addition. -/
def LeaseAdded (before after : Table WorkerLease) (o : DispatchOutbox) : Prop :=
  after = before ∨ ∃ lease hfresh, after = before.insert lease hfresh ∧
    lease.outboxId = o.outboxId ∧ lease.fencingToken = o.fencingToken

omit [Sha256] in
theorem leaseHistory_ok {o : DispatchOutbox} {status : LeaseStatus} {now : Time}
    (h : leaseHistory db o status now = .ok after) :
    ∃ leases, after = { db with leases := leases } ∧ LeaseAdded db.leases leases o := by
  unfold leaseHistory at h
  split at h
  · cases h
    exact ⟨db.leases, rfl, .inl rfl⟩
  · rcases Db.insertLease_ok h with ⟨lease, hfresh, rfl, _, hid, hfence⟩
    exact ⟨_, rfl, .inr ⟨lease, hfresh, rfl, hid, hfence⟩⟩

omit [Sha256] in
theorem closeLapsed_ok {o : DispatchOutbox} {now : Time}
    (h : closeLapsed db o now = .ok after) :
    ∃ leases, after = { db with leases := leases } ∧ LeaseAdded db.leases leases o := by
  unfold closeLapsed at h
  split at h
  · exact leaseHistory_ok h
  · cases h
    exact ⟨db.leases, rfl, .inl rfl⟩

omit [Sha256] in
/-- The run is updated, and stamped with the sequence of its audit event. -/
theorem replaces_run {t : Table ProductionRun} {p q : ProductionRun → Bool}
    {f : ProductionRun → ProductionRun}
    {r : ProductionRun} {sequence : Nat} (hr : r ∈ t.rows) (hp : p r = true)
    (hq : q (f r) = true) (hpkey : ∀ x, p x = true → x.runId = r.runId)
    (hqkey : ∀ x, q x = true → x.runId = r.runId)
    (hf : ∀ r, (f r).runId = r.runId := by intro _; rfl) :
    Table.Replaces t
      ((t.update p f hf).update q fun x => { x with auditSequence := sequence })
      r { f r with auditSequence := sequence } := by
  have hfirst : Table.Replaces t (t.update p f hf) r (f r) :=
    Table.replaces_update hr hp hpkey hf
  have hsecond := Table.replaces_update (t := t.update p f hf) (p := q)
    (f := fun x => { x with auditSequence := sequence }) hfirst.new_mem hq
    (fun x hx => (hqkey x hx).trans (hf r).symm)
  exact hfirst.trans hsecond

theorem recordStaleFence_ok {item : WorkItem} {now : Time}
    (h : recordStaleFence db item now = .ok after) : db.Logged after := by
  unfold recordStaleFence at h
  split at h
  · cases h
    exact Db.Logged.refl db
  · rcases ok_of_bind h with ⟨⟨sequence, db₁⟩, haudit, h⟩
    exact (appendAudit_logged haudit).trans (appendTraceEvent_logged h)

/-- The two records about the row `o`, under the name of the worker that was refused. -/
structure StaleRecords (item : WorkItem) (o : DispatchOutbox) (audited : AuditEvent)
    (traced : ObservabilityEvent) : Prop where
  auditOrganization : audited.organizationId = item.organizationId
  auditType : audited.eventType = .staleFenceRejected
  auditActor : audited.actorReference = item.workerOwnerHash.hex
  auditSubject : audited.subjectReference = o.runId.text
  traceOrganization : traced.organizationId = item.organizationId
  traceRun : traced.runId = o.runId
  traceStatus : traced.status = .rejected
  traceReason : traced.reason = .staleFenceRejected

/-- All that a refused work item leaves behind: one event in each log about the row that it names,
and nothing where there is no such row. -/
inductive Refused (item : WorkItem) (db after : Db) : Prop where
  | unknown (hnone : ∀ o ∈ db.outbox.rows, o.organizationId = item.organizationId →
        o.outboxId ≠ item.outboxId)
      (hsame : after = db)
  | recorded {o : DispatchOutbox} {head : AuditChainHead} {audited : AuditEvent}
      {traced : ObservabilityEvent} (ho : o ∈ db.outbox.rows)
      (hrow : o.organizationId = item.organizationId ∧ o.outboxId = item.outboxId)
      (hhead : db.audit.heads.get? audited.organizationId = some head)
      (hsequence : audited.sequence = head.headSequence + 1)
      (hrecords : StaleRecords item o audited traced)
      (hafter : after = { db with
        audit := db.audit.append head audited hhead hsequence
        traces := db.traces ++ [traced] })

theorem recordStaleFence_refused {item : WorkItem} {now : Time} (hc : db.Consistent)
    (h : recordStaleFence db item now = .ok after) : Refused item db after := by
  unfold recordStaleFence at h
  split at h
  next hnone =>
    cases h
    refine .unknown ?_ rfl
    intro o ho horg hid
    have hfound := Table.one?_isSome (p := fun o : DispatchOutbox =>
      o.organizationId = item.organizationId ∧ o.outboxId = item.outboxId) ho (by simp [horg, hid])
    rw [hnone] at hfound
    cases hfound
  next current hcurrent =>
    have ho := Table.one?_mem hcurrent
    have hrow := of_decide_eq_true ho.2
    rcases ok_of_bind h with ⟨⟨sequence, db₁⟩, haudit, h⟩
    rcases appendAudit_event haudit with
      ⟨head, audited, hhead, hsequence, rfl, horg, htype, hactor, hsubject, _⟩
    dsimp only at h
    -- The run of the row is there, so the trace event is written too.
    rcases hc.coupled current ho.1 with ⟨run, hr, hor⟩
    have hrun := Table.one?_isSome (p := fun r : ProductionRun =>
      r.organizationId = item.organizationId ∧ r.runId = current.runId) hr
      (by simp [← hor.organization, hrow.1, hor.run])
    rcases appendTraceEvent_event (by exact hrun) h with
      ⟨traced, rfl, htraceOrg, htraceRun, _, hstatus, hreason, _⟩
    exact .recorded ho.1 hrow hhead hsequence
      ⟨horg, htype, hactor, hsubject, htraceOrg, htraceRun, hstatus, hreason⟩ rfl

theorem failApproval_ok {w : Repository} {run : ProductionRun} {reason : TerminalReason}
    {now : Time} (h : failApproval w db run reason now = .ok after) :
    ∃ requests grants audit, after =
      { db with requests := requests, grants := grants, audit := audit } := by
  unfold failApproval at h
  split at h
  · dsimp only at h
    split at h
    · split at h
      · rcases ok_of_bind h with ⟨⟨sequence, db₁⟩, haudit, h⟩
        rcases appendAudit_ok haudit with ⟨audit, rfl⟩
        cases h
        exact ⟨_, _, audit, rfl⟩
      · cases h
        exact ⟨_, _, _, rfl⟩
    · cases h
      exact ⟨_, _, _, rfl⟩
  · cases h
    exact ⟨_, _, _, rfl⟩

theorem failLocked_reply {w : Repository} {run : ProductionRun} {outbox : DispatchOutbox}
    {reason : TerminalReason} {now : Time} {reply : Bool}
    (h : failLocked w db run outbox reason now = .ok (reply, after)) : reply = true := by
  unfold failLocked at h
  obtain ⟨db₁, _, h⟩ := ok_of_bind h
  obtain ⟨db₂, _, h⟩ := ok_of_bind h
  obtain ⟨db₃, _, h⟩ := ok_of_bind h
  obtain ⟨⟨sequence, db₄⟩, _, h⟩ := ok_of_bind h
  obtain ⟨db₅, _, h⟩ := ok_of_bind h
  obtain ⟨db₆, _, h⟩ := ok_of_bind h
  cases h
  rfl

/-- `_fail_locked` moves the run and its row to `failed`, and then fails the approval. -/
theorem failLocked_ok {w : Repository} {run : ProductionRun} {outbox : DispatchOutbox}
    {reason : TerminalReason} {now : Time} {reply : Bool}
    (hr : run ∈ db.runs.rows) (ho : outbox ∈ db.outbox.rows) (hor : Coupled outbox run)
    (hactive : outbox.status.active)
    (h : failLocked w db run outbox reason now = .ok (reply, after)) :
    ∃ mid o' r', Db.Move db mid outbox o' run r' ∧
      (r'.status = .failed ∧ r'.terminalReason = some reason) ∧
      db.SameApprovals mid ∧ failApproval w mid run reason now = .ok after := by
  unfold failLocked at h
  rcases ok_of_bind h with ⟨db₁, hlease, h⟩
  rcases leaseHistory_ok hlease with ⟨leases, rfl, hadded⟩
  rcases ok_of_bind h with ⟨db₂, hout, h⟩
  rcases Db.updateOutbox_ok hout with ⟨rfl, _⟩
  dsimp only at h
  rcases ok_of_bind h with ⟨db₃, hpart, h⟩
  rcases Db.updatePartition_ok hpart with ⟨rfl, hrange⟩
  dsimp only at h
  rcases ok_of_bind h with ⟨⟨sequence, db₄⟩, haudit, h⟩
  rcases appendAudit_ok haudit with ⟨audit, rfl⟩
  dsimp only [setAuditSequence] at h
  rcases ok_of_bind h with ⟨db₅, htrace, h⟩
  rcases appendTraceEvent_ok htrace with ⟨traces, rfl⟩
  dsimp only at h
  rcases ok_of_bind h with ⟨db₆, happroval, h⟩
  cases h
  refine ⟨_, { outbox with status := .failed, updatedAt := now },
    { run with
      status := .failed
      version := run.version + 1
      finishedAt := some now
      terminalReason := some reason
      updatedAt := now
      auditSequence := sequence }, ?_, ⟨rfl, rfl⟩, ?_, happroval⟩
  rotate_left
  · exact ⟨rfl, rfl, rfl, rfl, rfl, rfl⟩
  refine
    { outbox := ?_, runs := ?_, outbox_fixed := rfl, run_fixed := rfl, active := hactive,
      before := hor, coupled := ?_, dated := fun _ => .ended (by simp [RunStatus.terminal]) rfl,
      fence := ?_, leases := ?_, ready := ?_, range := ?_ }
  · exact Table.replaces_update ho (by simp [hor.organization]) (by simp)
  · exact replaces_run hr (by simp) (by simp) (by simp) (by simp)
  · exact hor.finish rfl rfl rfl (by simp [OutboxStatus.active])
  · exact .inl ⟨rfl, by simp [OutboxStatus.held]⟩
  · rcases hadded with hsame | ⟨lease, hfresh, hins, hid, hfence⟩
    · exact .inl hsame
    · exact .inr ⟨lease, hfresh, hins, hid, hfence, by simp [OutboxStatus.held]⟩
  · intro hready org
    rw [hor.organization] at hready ⊢
    exact Db.readyIn_drop .failed (by simp [OutboxStatus.active]) hready org
  · exact fun _ => hrange

omit [Sha256] in
theorem sameQueue_of_logged (h : db.Logged after) : Db.SameQueue db after := by
  rcases h.tables with ⟨audit, traces, rfl⟩
  exact ⟨rfl, rfl, rfl, rfl⟩

theorem failApproval_move {w : Repository} {mid : Db} {o o' : DispatchOutbox}
    {r r' run : ProductionRun} {reason : TerminalReason} {now : Time}
    (h : Db.Move db mid o o' r r') (happroval : failApproval w mid run reason now = .ok after) :
    Db.Move db after o o' r r' := by
  rcases failApproval_ok happroval with ⟨requests, grants, audit, rfl⟩
  have hsame : Db.SameQueue mid { mid with requests := requests, grants := grants, audit := audit } :=
    ⟨rfl, rfl, rfl, rfl⟩
  exact hsame.move h

/-! ## claim_next -/

omit [Sha256] in
/-- A touched partition keeps its counter. -/
theorem touchPartition_ok {organizationId : OrganizationId} {now : Time}
    (h : touchPartition db organizationId now = .ok after) :
    ∃ partitions, after = { db with partitions := partitions } ∧
      (∀ org, Db.readyIn partitions org = Db.readyIn db.partitions org) ∧ after.InRange := by
  unfold touchPartition at h
  rcases Db.updatePartition_ok h with ⟨rfl, hrange⟩
  refine ⟨_, rfl, ?_, hrange⟩
  intro org
  refine Eq.trans (Db.readyIn_update 0 (.inl rfl) org) ?_
  simp

theorem expireQueued_ok {w : Repository} {run : ProductionRun} {outbox : DispatchOutbox}
    {organizationId : OrganizationId} {now : Time} {reply : Option WorkItem}
    (hr : run ∈ db.runs.rows) (ho : outbox ∈ db.outbox.rows) (hor : Coupled outbox run)
    (hactive : outbox.status.active) (horg : outbox.organizationId = organizationId)
    (h : expireQueued w db run outbox organizationId now = .ok (reply, after)) :
    reply = none ∧ ∃ o' r', Db.Move db after outbox o' run r' ∧ r'.status = .expired ∧
      db.SameApprovals after := by
  unfold expireQueued at h
  rcases ok_of_bind h with ⟨db₁, hlease, h⟩
  rcases leaseHistory_ok hlease with ⟨leases, rfl, hadded⟩
  rcases ok_of_bind h with ⟨db₂, hout, h⟩
  rcases Db.updateOutbox_ok hout with ⟨rfl, _⟩
  dsimp only at h
  rcases ok_of_bind h with ⟨db₃, hpart, h⟩
  rcases Db.updatePartition_ok hpart with ⟨rfl, hrange⟩
  dsimp only at h
  rcases ok_of_bind h with ⟨⟨sequence, db₄⟩, haudit, h⟩
  rcases appendAudit_ok haudit with ⟨audit, rfl⟩
  dsimp only [setAuditSequence] at h
  rcases ok_of_bind h with ⟨db₅, htrace, h⟩
  rcases appendTraceEvent_ok htrace with ⟨traces, rfl⟩
  cases h
  refine ⟨rfl, { outbox with status := .expired, updatedAt := now },
    { run with
      status := .expired
      version := run.version + 1
      finishedAt := some now
      terminalReason := some .queueExpired
      updatedAt := now
      auditSequence := sequence }, ?_, rfl, ⟨rfl, rfl, rfl, rfl, rfl, rfl⟩⟩
  have hrunOrg : run.organizationId = organizationId := hor.organization.symm.trans horg
  refine
    { outbox := ?_, runs := ?_, outbox_fixed := rfl, run_fixed := rfl, active := hactive,
      before := hor, coupled := ?_, dated := fun _ => .ended (by simp [RunStatus.terminal]) rfl,
      fence := ?_, leases := ?_, ready := ?_, range := ?_ }
  · exact Table.replaces_update ho (by simp [horg]) (by simp)
  · exact replaces_run hr (by simp [hrunOrg]) (by simp [hrunOrg]) (by simp) (by simp)
  · exact hor.finish rfl rfl rfl (by simp [OutboxStatus.active])
  · exact .inl ⟨rfl, by simp [OutboxStatus.held]⟩
  · rcases hadded with hsame | ⟨lease, hfresh, hins, hid, hfence⟩
    · exact .inl hsame
    · exact .inr ⟨lease, hfresh, hins, hid, hfence, by simp [OutboxStatus.held]⟩
  · intro hready org
    rw [horg] at hready ⊢
    exact Db.readyIn_drop .expired (by simp [OutboxStatus.active]) hready org
  · exact fun _ => hrange

/-- What a claim hands out. -/
structure Leased (w : Repository) (item : WorkItem) (o o' : DispatchOutbox)
    (r' : ProductionRun) : Prop where
  issued : IssuedFor item o' r'
  token : item.fencingToken = o.fencingToken + 1
  current : o'.fencingToken = item.fencingToken
  owner : o'.leaseOwnerHash = some w.ownerHash
  item_owner : item.workerOwnerHash = w.ownerHash
  status : o'.status = .leased

theorem takeLease_ok {w : Repository} {run : ProductionRun} {outbox : DispatchOutbox}
    {organizationId : OrganizationId} {now : Time} {reply : Option WorkItem}
    (hr : run ∈ db.runs.rows) (ho : outbox ∈ db.outbox.rows) (hor : Coupled outbox run)
    (hactive : outbox.status.active) (horg : outbox.organizationId = organizationId)
    (h : takeLease w db run outbox organizationId now = .ok (reply, after)) :
    ∃ item o' r', reply = some item ∧ Db.Move db after outbox o' run r' ∧
      Leased w item outbox o' r' ∧ db.SameApprovals after := by
  have hrunOrg : run.organizationId = organizationId := hor.organization.symm.trans horg
  unfold takeLease at h
  dsimp only at h
  rcases ok_of_bind h with ⟨db₁, hlease, h⟩
  rcases closeLapsed_ok hlease with ⟨leases, rfl, hadded⟩
  dsimp only at h
  -- The selected rows are locked, so both compare-and-sets find them unchanged.
  rw [Table.count_one ho (by simp [horg]) (by simp +contextual), if_neg (by decide)] at h
  rcases ok_of_bind h with ⟨db₂, hout, h⟩
  rcases Db.updateOutbox_ok hout with ⟨rfl, hattempts⟩
  have hattempt := hattempts _ (Table.update_mem ho (by simp [horg]))
  dsimp only at h
  rw [Table.count_one hr (by simp [hrunOrg]) (by simp +contextual), if_neg (by decide)] at h
  rcases ok_of_bind h with ⟨db₃, htouch, h⟩
  rcases touchPartition_ok htouch with ⟨partitions, rfl, hready, hrange⟩
  rcases ok_of_bind h with ⟨⟨sequence, db₄⟩, haudit, h⟩
  rcases appendAudit_ok haudit with ⟨audit, rfl⟩
  dsimp only [setAuditSequence] at h
  rcases ok_of_bind h with ⟨db₅, htrace, h⟩
  rcases appendTraceEvent_ok htrace with ⟨traces, rfl⟩
  cases h
  let o' : DispatchOutbox :=
    { outbox with
      status := .leased
      attemptCount := outbox.attemptCount + 1
      fencingToken := outbox.fencingToken + 1
      leaseOwnerHash := some w.ownerHash
      leaseVersion := outbox.leaseVersion + 1
      leasedAt := some now
      leaseExpiresAt := some (now + leaseTtl)
      heartbeatAt := some now
      updatedAt := now }
  let r' : ProductionRun :=
    { run with
      status := if decide (outbox.status ≠ .ready) then .recovering else .leased
      version := run.version + 1
      leaseOwnerHash := some w.ownerHash
      fencingToken := outbox.fencingToken + 1
      leaseExpiresAt := some (now + leaseTtl)
      updatedAt := now
      auditSequence := sequence }
  have hcoupled : Coupled o' r' :=
    { run := hor.run
      organization := hor.organization
      fence := rfl
      status := by
        show r'.status = .leased ∨ r'.status = .recovering
        by_cases hready : outbox.status = .ready
        · exact .inl (by simp [r', hready])
        · exact .inr (by simp [r', hready])
      held := fun _ =>
        { fence := Nat.le_add_left 1 _
          version := Nat.le_add_left 1 _
          attempt := Nat.le_add_left 1 _
          owner := rfl
          same_owner := rfl
          leased := rfl
          expires := rfl }
      ready := fun hready => by cases hready
      attempts := hattempt }
  have hopen : ¬ run.status.terminal := (OutboxStatus.agrees_active hor.status).mp hactive
  have hopen' : ¬ r'.status.terminal :=
    (OutboxStatus.agrees_active hcoupled.status).mp (.inr (.inl rfl))
  refine ⟨_, o', r', rfl, ?_, ?_, ⟨rfl, rfl, rfl, rfl, rfl, rfl⟩⟩
  · refine
      { outbox := ?_, runs := ?_, outbox_fixed := rfl, run_fixed := rfl, active := hactive,
        before := hor, coupled := hcoupled, dated := fun h => h.going hopen hopen' rfl,
        fence := .inr ⟨rfl, rfl⟩, leases := ?_, ready := ?_, range := fun _ => hrange }
    · exact Table.replaces_update ho (by simp [horg]) (by simp +contextual)
    · exact replaces_run hr (by simp [hrunOrg]) (by simp [hrunOrg]) (by simp +contextual)
        (by simp +contextual)
    · rcases hadded with hsame | ⟨lease, hfresh, hins, hid, hfence⟩
      · exact .inl hsame
      · refine .inr ⟨lease, hfresh, hins, hid, hfence, ?_⟩
        intro hsame
        exact absurd hsame (Nat.succ_ne_self _)
    · exact fun _ org => (hready org).trans (Db.ready_kept (.inr (.inl rfl)))
  · exact
      { issued := ⟨hor.run, rfl, Nat.le_add_left 1 _, Nat.le_refl _⟩
        token := rfl
        current := rfl
        owner := rfl
        item_owner := rfl
        status := rfl }

omit [Sha256] in
theorem active_of_claimable {organizationId : OrganizationId} {now : Time}
    {outbox : DispatchOutbox} (h : claimable organizationId now outbox) :
    outbox.status.active := by
  rcases h.2 with hready | hleased
  · exact .inl hready.1
  · exact OutboxStatus.active_of_held hleased.1

/-- What a committed `claim_next` did. -/
inductive Claimed (w : Repository) (db after : Db) : Option WorkItem → Prop where
  | nothing (h : Db.Quiet db after) (hsame : db.SameApprovals after) : Claimed w db after none
  | leased {item : WorkItem} {o o' : DispatchOutbox} {r r' : ProductionRun}
      (h : Db.Move db after o o' r r') (hitem : Leased w item o o' r')
      (hsame : db.SameApprovals after) : Claimed w db after (some item)
  | expired {o o' : DispatchOutbox} {r r' : ProductionRun} (h : Db.Move db after o o' r r')
      (hstatus : r'.status = .expired) (hsame : db.SameApprovals after) :
      Claimed w db after none
  | exhausted {mid : Db} {o o' : DispatchOutbox} {r r' : ProductionRun} {now : Time}
      (h : Db.Move db mid o o' r r') (hstatus : r'.status = .failed)
      (hsame : db.SameApprovals mid)
      (happroval : failApproval w mid r .leaseExhausted now = .ok after) :
      Claimed w db after none

theorem claimNext_ok {w : Repository} {locked : Locked} {now : Time} {reply : Option WorkItem}
    (hc : db.Consistent) (h : claimNext w locked now db = .ok (reply, after)) :
    Claimed w db after reply := by
  have hsame : Db.Quiet db db := Db.SameQueue.quiet ⟨rfl, rfl, rfl, rfl⟩
  unfold claimNext at h
  split at h
  · cases h
    exact .nothing hsame ⟨rfl, rfl, rfl, rfl, rfl, rfl⟩
  next partition _ =>
    dsimp only at h
    split at h
    · rcases ok_of_bind h with ⟨db₁, htouch, h⟩
      rcases touchPartition_ok htouch with ⟨partitions, rfl, hready, hrange⟩
      cases h
      exact .nothing ⟨rfl, rfl, rfl, hready, fun _ => hrange⟩ ⟨rfl, rfl, rfl, rfl, rfl, rfl⟩
    next outbox hselect =>
      have ho := Table.firstBy?_mem hselect
      have hclaim : claimable partition.organizationId now outbox := by
        have hp := ho.2
        simp only [Bool.and_eq_true, decide_eq_true_eq] at hp
        exact hp.1
      split at h
      · cases h
        exact .nothing hsame ⟨rfl, rfl, rfl, rfl, rfl, rfl⟩
      next run hrun =>
        have hr := Table.one?_mem hrun
        have hkey : outbox.runId = run.runId := by
          have hp := of_decide_eq_true hr.2
          exact hp.2.symm
        have hor := hc.coupled_run ho.1 hr.1 hkey
        have hactive := active_of_claimable hclaim
        split at h
        · rcases expireQueued_ok hr.1 ho.1 hor hactive hclaim.1 h with
            ⟨rfl, o', r', hmove, hstatus, hkept⟩
          exact .expired hmove hstatus hkept
        · split at h
          · rcases ok_of_bind h with ⟨⟨done, db₁⟩, hfail, h⟩
            cases h
            rcases failLocked_ok hr.1 ho.1 hor hactive hfail with
              ⟨mid, o', r', hmove, ⟨hstatus, _⟩, hkept, happroval⟩
            exact .exhausted hmove hstatus hkept happroval
          · rcases takeLease_ok hr.1 ho.1 hor hactive hclaim.1 h with
              ⟨item, o', r', rfl, hmove, hitem, hkept⟩
            exact .leased hmove hitem hkept

/-! ## Work under a lease -/

/-- What a committed operation on a work item did. -/
inductive Worked (w : Repository) (item : WorkItem) (db after : Db) : Prop where
  /-- Only audit and trace events. -/
  | logged (h : db.Logged after)
  /-- The run goes on, and its approval is as it was. -/
  | moved {o o' : DispatchOutbox} {r r' : ProductionRun} (h : Db.Move db after o o' r r')
      (hopen : ¬ r'.status.terminal) (hsame : db.SameApprovals after)
  /-- The run and its approval fail. -/
  | failed {mid : Db} {o o' : DispatchOutbox} {r r' : ProductionRun} {now : Time}
      {reason : TerminalReason}
      (h : Db.Move db mid o o' r r') (hstatus : r'.status = .failed)
      (hsame : db.SameApprovals mid)
      (happroval : failApproval w mid r reason now = .ok after)
  /-- The run ends with the outcome of its workflow, and so does its approval. -/
  | completed {mid : Db} {o o' : DispatchOutbox} {r r' : ProductionRun} {now : Time}
      {successful : Bool} {receiptReference : String}
      (h : Db.Move db mid o o' r r')
      (hstatus : r'.status = if successful then .finishedUngraded else .failed)
      (hsame : db.SameApprovals mid) (hitem : item.runId = r.runId)
      (happroval : completeApproval mid item successful receiptReference now = .ok after)

omit [Sha256] in
/-- The rows behind an issued item. -/
theorem Issued.rows {item : WorkItem} (hc : db.Consistent) (hi : Issued db item)
    {outbox : DispatchOutbox} (ho : outbox ∈ db.outbox.rows)
    (hid : outbox.outboxId = item.outboxId) :
    ∃ run ∈ db.runs.rows, run.runId = item.runId ∧ run.organizationId = item.organizationId ∧
      Coupled outbox run ∧ IssuedFor item outbox run := by
  rcases hi with ⟨o, hmem, run, hr, hissued⟩
  have houtboxId : item.outboxId = o.outboxId := by rw [hissued.terms]; rfl
  have hrunId : item.runId = run.runId := by rw [hissued.terms]; rfl
  have horg : item.organizationId = run.organizationId := by rw [hissued.terms]; rfl
  have hsame : outbox = o := Table.eq_of_key ho hmem (hid.trans houtboxId)
  subst hsame
  exact ⟨run, hr, hrunId.symm, horg.symm, hc.coupled_run hmem hr hissued.run, hissued⟩

omit [Sha256] in
theorem Issued.coupled {item : WorkItem} (hc : db.Consistent) (hi : Issued db item)
    {outbox : DispatchOutbox} {run : ProductionRun} (ho : outbox ∈ db.outbox.rows)
    (hr : run ∈ db.runs.rows) (hid : outbox.outboxId = item.outboxId)
    (hrunId : run.runId = item.runId) : Coupled outbox run := by
  rcases hi.rows hc ho hid with ⟨s, hs, hsId, _, hcoupled, _⟩
  rwa [Table.eq_of_key hs hr (hsId.trans hrunId.symm)] at hcoupled

theorem failLocked_worked {w : Repository} {item : WorkItem} {run : ProductionRun}
    {outbox : DispatchOutbox} {reason : TerminalReason} {now : Time} {reply : Bool}
    (hr : run ∈ db.runs.rows) (ho : outbox ∈ db.outbox.rows) (hor : Coupled outbox run)
    (hactive : outbox.status.active)
    (h : failLocked w db run outbox reason now = .ok (reply, after)) :
    Worked w item db after := by
  rcases failLocked_ok hr ho hor hactive h with
    ⟨mid, o', r', hmove, ⟨hstatus, _⟩, hsame, happroval⟩
  exact .failed hmove hstatus hsame happroval

theorem stale_worked {w : Repository} {item : WorkItem} {now : Time} {reply result : Bool}
    (h : (do
      let db ← recordStaleFence db item now
      .ok (result, db) : Except Failure (Bool × Db)) = .ok (reply, after)) :
    Worked w item db after := by
  rcases ok_of_bind h with ⟨db₁, hstale, h⟩
  cases h
  exact .logged (recordStaleFence_ok hstale)

theorem markStarted_ok {w : Repository} {item : WorkItem} {now : Time} {reply : Bool}
    (hc : db.Consistent) (hi : Issued db item)
    (h : markStarted w item now db = .ok (reply, after)) : Worked w item db after := by
  unfold markStarted at h
  dsimp only at h
  split at h
  next outbox run houtbox hrun =>
    have ho := Table.one?_mem houtbox
    have hr := Table.one?_mem hrun
    rcases of_decide_eq_true ho.2 with ⟨horg, hid, hleased, _, hfence, _⟩
    rcases of_decide_eq_true hr.2 with ⟨hrunOrg, hrunId, _, _, hrunFence⟩
    have hor := hi.coupled hc ho.1 hr.1 hid hrunId
    have hactive : outbox.status.active := .inr (.inl hleased)
    split at h
    · rcases ok_of_bind h with ⟨⟨done, db₁⟩, hfail, h⟩
      cases h
      exact failLocked_worked hr.1 ho.1 hor hactive hfail
    · rcases ok_of_bind h with ⟨db₁, hout, h⟩
      rcases Db.updateOutbox_ok hout with ⟨rfl, _⟩
      dsimp only at h
      rcases ok_of_bind h with ⟨⟨sequence, db₂⟩, haudit, h⟩
      rcases appendAudit_ok haudit with ⟨audit, rfl⟩
      dsimp only [setAuditSequence] at h
      rcases ok_of_bind h with ⟨db₃, hfirst, h⟩
      rcases appendTraceEvent_ok hfirst with ⟨traces, rfl⟩
      dsimp only at h
      rcases ok_of_bind h with ⟨db₄, hsecond, h⟩
      rcases appendTraceEvent_ok hsecond with ⟨traces', rfl⟩
      cases h
      let o' : DispatchOutbox := { outbox with status := .dispatched, updatedAt := now }
      let r' : ProductionRun :=
        { run with
          status := .running
          version := run.version + 1
          startedAt := run.startedAt.or (some now)
          updatedAt := now
          auditSequence := sequence }
      have hheld := hor.held (.inl hleased)
      have hcoupled : Coupled o' r' :=
        { run := hor.run
          organization := hor.organization
          fence := hor.fence
          status := rfl
          held := fun _ => ⟨hheld.fence, hheld.version, hheld.attempt, hheld.owner,
            hheld.same_owner, hheld.leased, hheld.expires⟩
          ready := fun hready => by cases hready
          attempts := hor.attempts }
      refine .moved (?_ : Db.Move db _ outbox o' run r') (by simp [r', RunStatus.terminal])
        ⟨rfl, rfl, rfl, rfl, rfl, rfl⟩
      refine
        { outbox := ?_, runs := ?_, outbox_fixed := rfl, run_fixed := rfl, active := hactive,
          before := hor, coupled := hcoupled,
          dated := fun h => h.going ((OutboxStatus.agrees_active hor.status).mp hactive)
            (by simp [r', RunStatus.terminal]) rfl,
          fence := .inl ⟨rfl, fun _ => ⟨.inl hleased, rfl⟩⟩,
          leases := .inl rfl, ready := ?_, range := fun hr => hr }
      · exact Table.replaces_update ho.1 (by simp [horg, hid, hfence]) (by simp +contextual [hid])
      · exact replaces_run hr.1 (by simp [hrunOrg, hrunId, hrunFence])
          (by simp [hrunOrg, hrunId, hrunFence]) (by simp +contextual [hrunId])
          (by simp +contextual [hrunId])
      · exact fun _ org => Db.ready_kept (.inr (.inr rfl))
  next => exact stale_worked h

theorem heartbeat_ok {w : Repository} {item : WorkItem} {now : Time} {reply : Bool}
    (hc : db.Consistent) (hi : Issued db item)
    (h : heartbeat item now db = .ok (reply, after)) : Worked w item db after := by
  unfold heartbeat at h
  dsimp only at h
  split at h
  · exact stale_worked h
  next hcount =>
    rcases Table.exists_of_count (by rw [not_not.mp hcount]; decide) with ⟨outbox, ho, hp⟩
    rcases of_decide_eq_true hp with ⟨horg, hid, hstatus, howner, hfence, hversion, hsome, hlive⟩
    rcases hi.rows hc ho hid with ⟨run, hr, hrunId, hrunOrg, hor, _⟩
    have hheld := hor.held hstatus
    have hactive := OutboxStatus.active_of_held hstatus
    rcases ok_of_bind h with ⟨db₁, hout, h⟩
    rcases Db.updateOutbox_ok hout with ⟨rfl, _⟩
    dsimp only at h
    rcases ok_of_bind h with ⟨⟨sequence, db₂⟩, haudit, h⟩
    rcases appendAudit_ok haudit with ⟨audit, rfl⟩
    dsimp only at h
    rcases ok_of_bind h with ⟨db₃, htrace, h⟩
    rcases appendTraceEvent_ok htrace with ⟨traces, rfl⟩
    cases h
    let o' : DispatchOutbox :=
      { outbox with
        heartbeatAt := some now, leaseExpiresAt := some (now + leaseTtl), updatedAt := now }
    let r' : ProductionRun :=
      { run with leaseExpiresAt := some (now + leaseTtl), updatedAt := now }
    have hcoupled : Coupled o' r' :=
      { run := hor.run
        organization := hor.organization
        fence := hor.fence
        status := hor.status
        held := fun _ => ⟨hheld.fence, hheld.version, hheld.attempt, hheld.owner,
          hheld.same_owner, hheld.leased, rfl⟩
        ready := hor.ready
        attempts := hor.attempts }
    have hopen : ¬ r'.status.terminal := (OutboxStatus.agrees_active hor.status).mp hactive
    refine .moved (?_ : Db.Move db _ outbox o' run r') hopen ⟨rfl, rfl, rfl, rfl, rfl, rfl⟩
    refine
      { outbox := ?_, runs := ?_, outbox_fixed := rfl, run_fixed := rfl, active := hactive,
        before := hor, coupled := hcoupled, dated := fun h => h.going hopen hopen rfl,
        fence := .inl ⟨rfl, fun h => ⟨h, rfl⟩⟩,
        leases := .inl rfl, ready := ?_, range := fun hr => hr }
    · exact Table.replaces_update ho hp (by simp +contextual [hid])
    · exact Table.replaces_update hr
        (by simp [hrunOrg, hrunId, hheld.same_owner, howner, ← hor.fence, hfence])
        (by simp +contextual [hrunId])
    · exact fun _ org => Db.ready_kept hactive

theorem recordDeduplicated_ok {item : WorkItem} {now : Time} {reply : Bool}
    (h : recordDeduplicated item now db = .ok (reply, after)) : db.Logged after := by
  unfold recordDeduplicated at h
  dsimp only at h
  split at h
  · rcases ok_of_bind h with ⟨db₁, hstale, h⟩
    cases h
    exact recordStaleFence_ok hstale
  · rcases ok_of_bind h with ⟨⟨sequence, db₁⟩, haudit, h⟩
    rcases ok_of_bind h with ⟨db₂, htrace, h⟩
    cases h
    exact (appendAudit_logged haudit).trans (appendTraceEvent_logged htrace)

theorem fail_ok {w : Repository} {item : WorkItem} {reason : TerminalReason} {now : Time}
    {reply : Bool} (hc : db.Consistent) (hi : Issued db item)
    (h : fail w item reason now db = .ok (reply, after)) : Worked w item db after := by
  unfold fail at h
  dsimp only at h
  split at h
  next outbox run houtbox hrun =>
    have ho := Table.one?_mem houtbox
    have hr := Table.one?_mem hrun
    rcases of_decide_eq_true ho.2 with ⟨_, hid, hstatus, _⟩
    rcases of_decide_eq_true hr.2 with ⟨_, hrunId, _⟩
    have hor := hi.coupled hc ho.1 hr.1 hid hrunId
    exact failLocked_worked hr.1 ho.1 hor (OutboxStatus.active_of_held hstatus) h
  next => exact stale_worked h

theorem release_ok {w : Repository} {item : WorkItem} {now : Time} {reply : Bool}
    (hc : db.Consistent) (hi : Issued db item)
    (h : release item now db = .ok (reply, after)) : Worked w item db after := by
  unfold release at h
  split at h
  · exact stale_worked h
  next outbox houtbox =>
    have ho := Table.one?_mem houtbox
    rcases of_decide_eq_true ho.2 with ⟨horg, hid, hstatus, _, hfence⟩
    rcases hi.rows hc ho.1 hid with ⟨run, hr, hrunId, hrunOrg, hor, _⟩
    have hheld := hor.held hstatus
    have hactive := OutboxStatus.active_of_held hstatus
    rcases ok_of_bind h with ⟨db₁, hlease, h⟩
    rcases leaseHistory_ok hlease with ⟨leases, rfl, hadded⟩
    dsimp only at h
    rcases ok_of_bind h with ⟨db₂, hout, h⟩
    rcases Db.updateOutbox_ok hout with ⟨rfl, _⟩
    dsimp only at h
    rcases ok_of_bind h with ⟨⟨sequence, db₃⟩, haudit, h⟩
    rcases appendAudit_ok haudit with ⟨audit, rfl⟩
    dsimp only at h
    rcases ok_of_bind h with ⟨db₄, htrace, h⟩
    rcases appendTraceEvent_ok htrace with ⟨traces, rfl⟩
    cases h
    let o' : DispatchOutbox :=
      { outbox with
        status := .ready
        leaseOwnerHash := none
        leaseExpiresAt := none
        heartbeatAt := none
        updatedAt := now }
    let r' : ProductionRun :=
      { run with
        status := .queued
        version := run.version + 1
        leaseOwnerHash := none
        leaseExpiresAt := none
        updatedAt := now }
    have hcoupled : Coupled o' r' :=
      { run := hor.run
        organization := hor.organization
        fence := hor.fence
        status := rfl
        held := fun hheld' => by rcases hheld' with hs | hs <;> cases hs
        ready := fun _ => .inr ⟨hheld.fence, hheld.leased, rfl⟩
        attempts := hor.attempts }
    refine .moved (?_ : Db.Move db _ outbox o' run r') (by simp [r', RunStatus.terminal])
      ⟨rfl, rfl, rfl, rfl, rfl, rfl⟩
    refine
      { outbox := ?_, runs := ?_, outbox_fixed := rfl, run_fixed := rfl, active := hactive,
        before := hor, coupled := hcoupled,
        dated := fun h => h.going ((OutboxStatus.agrees_active hor.status).mp hactive)
          (by simp [r', RunStatus.terminal]) rfl,
        fence := .inl ⟨rfl, by simp [o', OutboxStatus.held]⟩,
        leases := ?_, ready := ?_, range := fun hr => hr }
    · exact Table.replaces_update ho.1 (by simp [horg, hid, hfence]) (by simp +contextual [hid])
    · exact Table.replaces_update hr (by simp [hrunOrg, hrunId, ← hor.fence, hfence])
        (by simp +contextual [hrunId])
    · rcases hadded with hsame | ⟨lease, hfresh, hins, hlease, hleaseFence⟩
      · exact .inl hsame
      · exact .inr ⟨lease, hfresh, hins, hlease, hleaseFence,
          fun _ => by simp [o', OutboxStatus.held]⟩
    · exact fun _ org => Db.ready_kept (.inl rfl)

/-! ## complete -/

/-- The optional step to `verifying` changes status and version of the run. -/
theorem startVerifying_ok {item : WorkItem} {run : ProductionRun} {successful : Bool}
    {receiptReference : String} {now : Time} (hr : run ∈ db.runs.rows)
    (horg : run.organizationId = item.organizationId) (hrunId : run.runId = item.runId)
    (hfence : run.fencingToken = item.fencingToken)
    (h : startVerifying db item run successful receiptReference now = .ok after) :
    ∃ runs audit r₁, after = { db with runs := runs, audit := audit } ∧
      Table.Replaces db.runs runs run r₁ ∧ r₁.fixed = run.fixed ∧
      r₁.fencingToken = run.fencingToken := by
  unfold startVerifying at h
  split at h
  · rcases ok_of_bind h with ⟨⟨sequence, db₁⟩, haudit, h⟩
    rcases appendAudit_ok haudit with ⟨audit, rfl⟩
    cases h
    refine ⟨_, audit, _, rfl, Table.replaces_update hr ?_ ?_, rfl, rfl⟩
    · simp [horg, hrunId, hfence]
    · simp +contextual [hrunId]
  · cases h
    exact ⟨db.runs, db.audit, run, rfl, Table.Replaces.refl hr, rfl, rfl⟩

theorem appendTraceEvents_ok {organizationId : OrganizationId} {runId : RunId} {now : Time}
    {entries : List TraceEntry}
    (h : appendTraceEvents db organizationId runId now entries = .ok after) :
    ∃ traces, after = { db with traces := traces } := by
  induction entries generalizing db with
  | nil =>
      cases h
      exact ⟨_, rfl⟩
  | cons entry rest ih =>
      rcases ok_of_bind h with ⟨db₁, hentry, hrest⟩
      rcases appendTraceEvent_ok hentry with ⟨traces, rfl⟩
      rcases ih hrest with ⟨traces', rfl⟩
      exact ⟨traces', rfl⟩

theorem completeApproval_ok {item : WorkItem} {successful : Bool} {receiptReference : String}
    {now : Time} (h : completeApproval db item successful receiptReference now = .ok after) :
    ∃ requests grants audit, after =
      { db with requests := requests, grants := grants, audit := audit } := by
  unfold completeApproval at h
  split at h
  · dsimp only at h
    split at h
    · cases h
    · rcases ok_of_bind h with ⟨⟨sequence, db₁⟩, haudit, h⟩
      rcases appendAudit_ok haudit with ⟨audit, rfl⟩
      cases h
      exact ⟨_, _, audit, rfl⟩
  · rcases ok_of_bind h with ⟨⟨sequence, db₁⟩, haudit, h⟩
    rcases appendAudit_ok haudit with ⟨audit, rfl⟩
    cases h
    exact ⟨_, _, audit, rfl⟩

theorem completeLocked_reply {item : WorkItem} {run : ProductionRun} {outbox : DispatchOutbox}
    {outcome : TemporalOutcome} {now : Time} {reply : Bool}
    (h : completeLocked db item run outbox outcome now = .ok (reply, after)) : reply = true := by
  unfold completeLocked at h
  dsimp only at h
  obtain ⟨db₁, _, h⟩ := ok_of_bind h
  obtain ⟨db₂, _, h⟩ := ok_of_bind h
  obtain ⟨db₃, _, h⟩ := ok_of_bind h
  obtain ⟨db₄, _, h⟩ := ok_of_bind h
  obtain ⟨⟨sequence, db₅⟩, _, h⟩ := ok_of_bind h
  obtain ⟨db₆, _, h⟩ := ok_of_bind h
  obtain ⟨db₇, _, h⟩ := ok_of_bind h
  exact (Prod.mk.inj (Except.ok.inj h)).1.symm

theorem completeLocked_ok {w : Repository} {item : WorkItem} {run : ProductionRun}
    {outbox : DispatchOutbox} {outcome : TemporalOutcome} {now : Time} {reply : Bool}
    (hr : run ∈ db.runs.rows) (ho : outbox ∈ db.outbox.rows) (hor : Coupled outbox run)
    (hactive : outbox.status.active) (hid : outbox.outboxId = item.outboxId)
    (hrunId : run.runId = item.runId) (hrunOrg : run.organizationId = item.organizationId)
    (hfence : outbox.fencingToken = item.fencingToken)
    (h : completeLocked db item run outbox outcome now = .ok (reply, after)) :
    Worked w item db after := by
  have hrunFence : run.fencingToken = item.fencingToken := hor.fence.symm.trans hfence
  have horg : outbox.organizationId = item.organizationId := hor.organization.trans hrunOrg
  unfold completeLocked at h
  dsimp only at h
  generalize hsuccess : decide (outcome.result.status = .finishedUngraded) = successful at h
  rcases ok_of_bind h with ⟨db₁, hverify, h⟩
  rcases startVerifying_ok hr hrunOrg hrunId hrunFence hverify with
    ⟨runs, audit₁, r₁, rfl, hfirst, hfixed, hsameFence⟩
  have hr₁Org : r₁.organizationId = run.organizationId := by
    have hfields := congrArg ProductionRun.organizationId hfixed
    exact hfields
  have hr₁Id : r₁.runId = run.runId := hfirst.same_key
  rcases ok_of_bind h with ⟨db₂, hlease, h⟩
  rcases leaseHistory_ok hlease with ⟨leases, rfl, hadded⟩
  dsimp only at h
  rcases ok_of_bind h with ⟨db₃, hout, h⟩
  rcases Db.updateOutbox_ok hout with ⟨rfl, _⟩
  dsimp only at h
  rcases ok_of_bind h with ⟨db₄, hpart, h⟩
  rcases Db.updatePartition_ok hpart with ⟨rfl, hrange⟩
  dsimp only at h
  rcases ok_of_bind h with ⟨⟨sequence, db₅⟩, haudit, h⟩
  rcases appendAudit_ok haudit with ⟨audit, rfl⟩
  dsimp only [setAuditSequence, appendOutcomeTrace] at h
  rcases ok_of_bind h with ⟨db₆, htrace, h⟩
  rcases appendTraceEvents_ok htrace with ⟨traces, rfl⟩
  dsimp only at h
  rcases ok_of_bind h with ⟨db₇, happroval, h⟩
  cases h
  let status : OutboxStatus := if successful then .closed else .failed
  let o' : DispatchOutbox := { outbox with status := status, updatedAt := now }
  let r' : ProductionRun :=
    { r₁ with
      status := if successful then .finishedUngraded else .failed
      version := run.version + if successful then 2 else 1
      finishedAt := some now
      terminalReason := some (if successful then .agentFinished else .agentFailed)
      receiptReference :=
        some (outcome.result.latestCheckpointHash.getD (stableHash outcome.result.json)).hex
      updatedAt := now
      auditSequence := sequence }
  have hclosed : ¬ status.active := by
    cases successful <;> simp [status, OutboxStatus.active]
  have hagrees : status.agrees r'.status := by
    cases successful <;> rfl
  have hover : r'.status.terminal := by
    cases successful <;> simp [r', RunStatus.terminal]
  refine .completed (?_ : Db.Move db _ outbox o' run r') rfl ?_ hrunId.symm happroval
  · refine
      { outbox := ?_, runs := ?_, outbox_fixed := rfl, run_fixed := hfixed, active := hactive,
        before := hor, coupled := ?_, dated := fun _ => .ended hover rfl, fence := ?_, leases := ?_,
        ready := ?_, range := fun _ => hrange }
    · exact Table.replaces_update ho (by simp [horg, hid, hfence]) (by simp +contextual [hid])
    · apply hfirst.trans
      exact replaces_run hfirst.new_mem (by simp [hr₁Org, hr₁Id, hsameFence, hrunOrg, hrunId, hrunFence])
        (by simp [hr₁Org, hr₁Id, hsameFence, hrunOrg, hrunId, hrunFence])
        (by simp +contextual [hr₁Id, hrunId]) (by simp +contextual [hr₁Id, hrunId])
    · exact hor.finish hfixed hsameFence hagrees hclosed
    · exact .inl ⟨rfl, fun hheld => absurd (OutboxStatus.active_of_held hheld) hclosed⟩
    · rcases hadded with hsame | ⟨lease, hfresh, hins, hlease, hleaseFence⟩
      · exact .inl hsame
      · exact .inr ⟨lease, hfresh, hins, hlease, hleaseFence,
          fun _ hheld => hclosed (OutboxStatus.active_of_held hheld)⟩
    · intro hready org
      rw [horg] at hready ⊢
      exact Db.readyIn_drop status hclosed hready org
  · exact ⟨rfl, rfl, rfl, rfl, rfl, rfl⟩

theorem complete_ok {w : Repository} {item : WorkItem} {outcome : TemporalOutcome} {now : Time}
    {reply : Bool} (hc : db.Consistent) (hi : Issued db item)
    (h : complete w item outcome now db = .ok (reply, after)) : Worked w item db after := by
  unfold complete at h
  dsimp only at h
  split at h
  next outbox run houtbox hrun =>
    have ho := Table.one?_mem houtbox
    have hr := Table.one?_mem hrun
    rcases of_decide_eq_true ho.2 with ⟨_, hid, hstatus, _, hfence, _⟩
    rcases of_decide_eq_true hr.2 with ⟨hrunOrg, hrunId, _⟩
    have hor := hi.coupled hc ho.1 hr.1 hid hrunId
    have hactive : outbox.status.active := .inr (.inr hstatus)
    split at h
    · exact failLocked_worked hr.1 ho.1 hor hactive h
    · exact completeLocked_ok hr.1 ho.1 hor hactive hid hrunId hrunOrg hfence h
  next => exact stale_worked h

/-! ## The steps -/

theorem completeApproval_move {mid : Db} {item : WorkItem} {successful : Bool}
    {receiptReference : String} {now : Time} {o o' : DispatchOutbox} {r r' : ProductionRun}
    (h : Db.Move db mid o o' r r')
    (happroval : completeApproval mid item successful receiptReference now = .ok after) :
    Db.Move db after o o' r r' := by
  rcases completeApproval_ok happroval with ⟨requests, grants, audit, rfl⟩
  have hsame : Db.SameQueue mid { mid with requests := requests, grants := grants, audit := audit } :=
    ⟨rfl, rfl, rfl, rfl⟩
  exact hsame.move h

theorem Claimed.step {w : Repository} {reply : Option WorkItem} (h : Claimed w db after reply) :
    Db.Step db after := by
  cases h with
  | nothing h => exact .quiet h
  | leased h => exact .move h
  | expired h => exact .move h
  | exhausted h _ _ happroval => exact .move (failApproval_move h happroval)

theorem Worked.step {w : Repository} {item : WorkItem} (h : Worked w item db after) :
    Db.Step db after := by
  cases h with
  | logged h => exact .quiet (sameQueue_of_logged h).quiet
  | moved h => exact .move h
  | failed h _ _ happroval => exact .move (failApproval_move h happroval)
  | completed h _ _ _ happroval => exact .move (completeApproval_move h happroval)

end FlowPilot.Worker
