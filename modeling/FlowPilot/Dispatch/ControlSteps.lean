import FlowPilot.Dispatch.Coupling
import FlowPilot.Control.Production

/-!
# What the Control API's production operations do to the dispatch tables

An admission inserts a run, with its outbox row or with its approval request; a claim moves a
waiting run into the queue; a cancellation takes a run out.  Everything an operation commits
besides is idle.
-/

open FlowPilot.Lib

namespace FlowPilot.Control

variable [Sha256] {db after : Db}

/-! ## Idle writes -/

omit [Sha256] in
theorem idle_of_audit {audit : AuditLog} : db.Idle { db with audit := audit } :=
  { Db.Idle.refl db with }

omit [Sha256] in
theorem idle_of_traces {traces : List ObservabilityEvent} : db.Idle { db with traces := traces } :=
  { Db.Idle.refl db with }

theorem audit_idle {organizationId : OrganizationId} {eventType : AuditEventType}
    {actorReference : Digest} {subjectReference : String} {payload : List (String × Json)}
    {now : Time} {sequence : Nat}
    (h : appendAuditEvent db organizationId eventType actorReference subjectReference payload
      now = .ok (sequence, after)) : db.Idle after := by
  rcases appendAuditEvent_ok h with ⟨audit, rfl⟩
  exact idle_of_audit

theorem trace_idle {organizationId : OrganizationId} {runId : RunId} {entry : TraceEntry}
    {now : Time} (h : appendObservabilityEvent db organizationId runId entry now = .ok after) :
    db.Idle after := by
  rcases appendObservabilityEvent_ok h with ⟨traces, rfl⟩
  exact idle_of_traces

omit [Sha256] in
theorem ensureBucket_ok {organizationId : OrganizationId} {bucketKeyHash : Digest}
    {scopeKind : ScopeKind} {routeClass : RouteClass} {burst : Nat} {now : Time}
    {bucket : RateLimitBucket}
    (h : ensureBucket db organizationId bucketKeyHash scopeKind routeClass burst now =
      .ok (bucket, after)) : ∃ buckets, after = { db with buckets := buckets } := by
  unfold ensureBucket at h
  dsimp only at h
  split at h
  · cases h
  · cases h
    exact ⟨_, rfl⟩

theorem consumeRateLimit_ok {actor : ActorContext} {routeClass : RouteClass} {now : Time}
    {limited : Option Nat} (h : consumeRateLimit db actor routeClass now = .ok (limited, after)) :
    ∃ buckets, after = { db with buckets := buckets } := by
  unfold consumeRateLimit at h
  rcases ok_of_bind h with ⟨⟨actorBucket, db₁⟩, hactor, h⟩
  rcases ensureBucket_ok hactor with ⟨buckets, rfl⟩
  dsimp only at h
  rcases ok_of_bind h with ⟨⟨organizationBucket, db₂⟩, horg, h⟩
  rcases ensureBucket_ok horg with ⟨buckets', rfl⟩
  dsimp only at h
  split at h
  · cases h
    exact ⟨_, rfl⟩
  · cases h
    exact ⟨_, rfl⟩

theorem rateLimit_idle {actor : ActorContext} {routeClass : RouteClass}
    {subjectReference : String} {now : Time} {limited : Option Failure}
    (h : consumeRateLimitOrAudit db actor routeClass subjectReference now =
      .ok (limited, after)) : db.Idle after := by
  unfold consumeRateLimitOrAudit at h
  rcases ok_of_bind h with ⟨⟨retryAfter, db₁⟩, hconsume, h⟩
  rcases consumeRateLimit_ok hconsume with ⟨buckets, rfl⟩
  have hfirst : db.Idle { db with buckets := buckets } := { Db.Idle.refl db with }
  dsimp only at h
  split at h
  · cases h
    exact hfirst
  · rcases ok_of_bind h with ⟨⟨sequence, db₂⟩, haudit, h⟩
    cases h
    exact hfirst.trans (audit_idle haudit)

/-- What a rate limit raises. -/
theorem rateLimit_failure {actor : ActorContext} {routeClass : RouteClass}
    {subjectReference : String} {now : Time} {failure : Failure}
    (h : consumeRateLimitOrAudit db actor routeClass subjectReference now =
      .ok (some failure, after)) : failure ≠ .integrityError := by
  unfold consumeRateLimitOrAudit at h
  rcases ok_of_bind h with ⟨⟨retryAfter, db₁⟩, _, h⟩
  dsimp only at h
  split at h
  · cases h
  · rcases ok_of_bind h with ⟨⟨sequence, db₂⟩, _, h⟩
    cases h
    simp

theorem ensurePartition_idle (db : Db) (organizationId : OrganizationId) (now : Time) :
    db.Idle (ensurePartition db organizationId now) ∧
      ((ensurePartition db organizationId now).partitions.get? organizationId).isSome := by
  unfold ensurePartition
  cases hpart : db.partitions.get? organizationId with
  | some p =>
      have htaken : db.partitions.insert? (emptyPartition organizationId now) = none := by
        unfold Table.insert?
        rw [dif_neg]
        show ¬ db.partitions.get? organizationId = none
        rw [hpart]
        simp
      rw [htaken]
      exact ⟨Db.Idle.refl db, by simp [hpart]⟩
  | none =>
      have hfresh : db.partitions.get? (Keyed.key (emptyPartition organizationId now)) = none :=
        hpart
      rw [Table.insert?_of_fresh hfresh]
      refine ⟨{ Db.Idle.refl db with ready := ?_, range := ?_ }, ?_⟩
      · intro org
        show Db.readyIn (db.partitions.insert _ hfresh) org = Db.readyIn db.partitions org
        unfold Db.readyIn
        rw [Table.get?_insert]
        by_cases horg : organizationId = org
        · rw [← horg, hpart]
          simp [emptyPartition]
        · rw [if_neg (by simpa [emptyPartition] using horg)]
      · intro hr p hp
        rcases (Table.mem_insert hfresh).mp hp with hold | rfl
        · exact hr p hold
        · refine ⟨Int.le_refl 0, ?_⟩
          show (0 : Int) ≤ 32
          decide
      · show ((db.partitions.insert _ hfresh).get? organizationId).isSome
        rw [Table.get?_insert, if_pos (by simp [emptyPartition])]
        rfl

omit [Sha256] in
/-- The locking select finds the organization's own partition, whatever it sees besides. -/
theorem lockPartitions_own {organizationId : OrganizationId} {visible : List OrganizationId}
    {p : SchedulerPartition} (hp : db.partitions.get? organizationId = some p) :
    (lockPartitions db organizationId visible).find?
      (fun q => decide (q.organizationId = organizationId)) = some p := by
  have hkey : p.organizationId = organizationId := Table.key_of_get? hp
  have hmem : p ∈ lockPartitions db organizationId visible :=
    List.mem_filter.mpr ⟨Table.mem_of_get? hp, by simp [hkey]⟩
  cases hfind : (lockPartitions db organizationId visible).find?
      (fun q => decide (q.organizationId = organizationId)) with
  | none =>
      have hnot := List.find?_eq_none.mp hfind p hmem
      simp [hkey] at hnot
  | some q =>
      have hq : q.organizationId = organizationId := by simpa using List.find?_some hfind
      have hqmem := (List.mem_filter.mp (List.mem_of_find?_eq_some hfind)).1
      have hget : db.partitions.get? organizationId = some q := by
        rw [← hq]
        exact Table.get?_of_mem hqmem
      rw [← hget, hp]

omit [Sha256] in
/-- What the capacity check compares: the counters under their locks. -/
theorem capacityLeft_iff {organizationId : OrganizationId} {visible : List OrganizationId}
    (hpart : (db.partitions.get? organizationId).isSome) :
    capacityLeft db organizationId visible = true ↔
      ((lockPartitions db organizationId visible).map (·.readyCount)).sum < queueTotalCapacity ∧
        db.readyCount organizationId < queueOrganizationCapacity := by
  rcases Option.isSome_iff_exists.mp hpart with ⟨p, hp⟩
  have hready : db.readyCount organizationId = p.readyCount := by
    unfold Db.readyCount Db.readyIn
    rw [hp]
  unfold capacityLeft
  dsimp only
  rw [lockPartitions_own hp, hready]
  simp only [Bool.and_eq_true, decide_eq_true_eq]

omit [Sha256] in
theorem capacity_below {organizationId : OrganizationId} {visible : List OrganizationId}
    (hpart : (db.partitions.get? organizationId).isSome)
    (h : capacityLeft db organizationId visible = true) : db.readyCount organizationId < 32 :=
  ((capacityLeft_iff hpart).mp h).2

omit [Sha256] in
/-- The locked counter is increased by one. -/
theorem addReady_ok {organizationId : OrganizationId} {now : Time}
    (h : addReady db organizationId now = .ok after)
    (hpart : (db.partitions.get? organizationId).isSome) :
    ∃ partitions, after = { db with partitions := partitions } ∧
      (∀ org, Db.readyIn partitions org =
        Db.readyIn db.partitions org + if org = organizationId then 1 else 0) ∧
      after.InRange := by
  unfold addReady at h
  rcases Db.updatePartition_ok h with ⟨rfl, hrange⟩
  refine ⟨_, rfl, ?_, hrange⟩
  intro org
  unfold Db.readyIn
  rw [Table.get?_update]
  by_cases horg : org = organizationId
  · rw [horg]
    cases hp : db.partitions.get? organizationId with
    | none =>
        rw [hp] at hpart
        cases hpart
    | some p =>
        have hkey : p.organizationId = organizationId := Table.key_of_get? hp
        simp [hkey]
  · cases hp : db.partitions.get? org with
    | none => simp [horg]
    | some p =>
        have hkey : p.organizationId = org := Table.key_of_get? hp
        simp [hkey, horg]

/-! ## Admission -/

/-- What a committed admission wrote. -/
structure Admitted (a : Admission) (db after : Db) (run : ProductionRun) : Prop where
  organization : run.organizationId = a.organizationId
  key : run.requesterUserId = a.actor.userId ∧ run.idempotencyHash = a.keyHash ∧
    run.bodyHash = a.bodyHash
  runs : ∃ hfresh, after.runs = db.runs.insert run hfresh
  terms : ∃ requestId status sequence, run = newRun run.runId a.actor a.organizationId a.payload
    a.evaluation requestId status a.keyHash a.bodyHash sequence a.now
  queue : Db.Await db after run ∧ a.waits = true ∨
    (∃ o, Db.Enqueue db after o run) ∧ a.waits = false
  idempotency : ∃ record hfresh, after.idempotency = db.idempotency.insert record hfresh ∧
    record.organizationId = a.organizationId ∧ record.actorUserId = a.actor.userId ∧
    record.keyHash = a.keyHash ∧ record.bodyHash = a.bodyHash ∧ record.runId = run.runId
  grants : after.grants = db.grants
  decisions : after.decisions = db.decisions
  authorities : after.authorities = db.authorities
  directory : after.directory = db.directory
  requests : (∃ request hfresh, after.requests = db.requests.insert request hfresh ∧
      request.status = .pending ∧ request.organizationId = a.organizationId ∧
      request.requestId = db.freshRequestId ∧
      run.approvalRequestId = some request.requestId) ∧ a.waits = true ∨
    (after.requests = db.requests ∧ run.approvalRequestId = none) ∧ a.waits = false
  grant : run.grantId = none
  authorization : run.authorizationHash = a.actor.authorizationHash

theorem admitRequest_ok {a : Admission} {requestId : Option RequestId}
    (h : admitRequest a db = .ok (requestId, after)) :
    (∃ request hfresh audit, after =
        { db with requests := db.requests.insert request hfresh, audit := audit } ∧
      request.status = .pending ∧ request.organizationId = a.organizationId ∧
      request.requestId = db.freshRequestId ∧ requestId = some request.requestId) ∧
        a.waits = true ∨
    (after = db ∧ requestId = none) ∧ a.waits = false := by
  unfold admitRequest at h
  split at h
  next hwaits =>
    rcases ok_of_bind h with ⟨⟨sequence, db₁⟩, haudit, h⟩
    rcases appendAuditEvent_ok haudit with ⟨audit, rfl⟩
    dsimp only at h
    rcases ok_of_bind h with ⟨db₂, hinsert, h⟩
    rcases Db.insertRequest_ok hinsert with ⟨hfresh, rfl⟩
    cases h
    exact .inl ⟨⟨_, hfresh, audit, rfl, rfl, rfl, rfl, rfl⟩, hwaits⟩
  next hwaits =>
    cases h
    exact .inr ⟨⟨rfl, rfl⟩, Bool.eq_false_iff.mpr hwaits⟩

omit [Sha256] in
theorem admitOutbox_ok {a : Admission} {run : ProductionRun} {outbox : Option DispatchOutbox}
    (h : admitOutbox a run db = .ok (outbox, after))
    (hpart : a.waits = false → (db.partitions.get? a.organizationId).isSome) :
    after = db ∧ a.waits = true ∨
    (∃ hfresh partitions, after = { db with
        outbox := db.outbox.insert
          (newOutbox db.freshOutboxId a.organizationId run.runId a.now) hfresh
        partitions := partitions } ∧
      (∀ org, Db.readyIn partitions org =
        Db.readyIn db.partitions org + if org = a.organizationId then 1 else 0) ∧
      after.InRange) ∧ a.waits = false := by
  unfold admitOutbox at h
  split at h
  next hwaits =>
    cases h
    exact .inl ⟨rfl, hwaits⟩
  next hwaits =>
    have hfalse := Bool.eq_false_iff.mpr hwaits
    rcases ok_of_bind h with ⟨db₁, hinsert, h⟩
    rcases Db.insertOutbox_ok hinsert with ⟨hfresh, rfl, _⟩
    rcases ok_of_bind h with ⟨db₂, hready, h⟩
    rcases addReady_ok hready (hpart hfalse) with ⟨partitions, rfl, hcounts, hrange⟩
    cases h
    exact .inr ⟨⟨hfresh, partitions, rfl, hcounts, hrange⟩, hfalse⟩

omit [Sha256] in
/-- A new row and a new queued run agree. -/
theorem newOutbox_coupled {outboxId : OutboxId} {organizationId : OrganizationId} {now : Time}
    {run : ProductionRun} (horg : run.organizationId = organizationId)
    (hstatus : run.status = .queued) (hfence : run.fencingToken = 0) :
    Coupled (newOutbox outboxId organizationId run.runId now) run where
  run := rfl
  organization := horg.symm
  fence := hfence.symm
  status := hstatus
  held := fun hheld => by rcases hheld with h | h <;> cases h
  ready := fun _ => .inl ⟨rfl, rfl⟩
  attempts := Nat.zero_le 3

theorem admitInserts_ok {a : Admission} {run : ProductionRun} (hc : db.Consistent)
    (hbelow : a.waits = false → db.readyCount a.organizationId < 32)
    (hpart : a.waits = false → (db.partitions.get? a.organizationId).isSome)
    (h : admitInserts a db = .ok (run, after)) : Admitted a db after run := by
  unfold admitInserts at h
  rcases ok_of_bind h with ⟨⟨_, db₁⟩, haudit, h⟩
  rcases appendAuditEvent_ok haudit with ⟨audit₁, rfl⟩
  dsimp only at h
  rcases ok_of_bind h with ⟨⟨requestId, db₂⟩, hrequest, h⟩
  dsimp only at h
  rcases ok_of_bind h with ⟨⟨sequence, db₃⟩, hqueued, h⟩
  rcases appendAuditEvent_ok hqueued with ⟨audit₂, rfl⟩
  dsimp only at h
  rcases ok_of_bind h with ⟨db₄, hrun, h⟩
  rcases Db.insertRun_ok hrun with ⟨hfreshRun, rfl⟩
  dsimp only at h
  rcases ok_of_bind h with ⟨db₅, hrecord, h⟩
  rcases Db.insertIdempotency_ok hrecord with ⟨hfreshRecord, rfl⟩
  dsimp only at h
  rcases ok_of_bind h with ⟨⟨outbox, db₆⟩, houtbox, h⟩
  dsimp only at h
  rcases ok_of_bind h with ⟨db₇, htrace, h⟩
  have hlast : ∃ traces, after = { db₆ with traces := traces } ∧ run = newRun db.freshRunId a.actor
      a.organizationId a.payload a.evaluation requestId
      (if a.waits then .waitingApproval else .queued) a.keyHash a.bodyHash sequence a.now := by
    rcases appendObservabilityEvent_ok htrace with ⟨traces, rfl⟩
    split at h
    · cases h
      exact ⟨traces, rfl, rfl⟩
    · rcases ok_of_bind h with ⟨db₈, hsecond, h⟩
      rcases appendObservabilityEvent_ok hsecond with ⟨traces', rfl⟩
      cases h
      exact ⟨traces', rfl, rfl⟩
  rcases hlast with ⟨traces, rfl, rfl⟩
  have hunqueued : ∀ x ∈ db.outbox.rows, x.runId ≠ db.freshRunId := by
    intro x hx
    rcases hc.coupled x hx with ⟨s, hs, hxs⟩
    rw [hxs.run]
    rcases admitRequest_ok hrequest with ⟨⟨_, _, _, rfl, _⟩, _⟩ | ⟨⟨rfl, _⟩, _⟩
    · exact Table.get?_eq_none.mp hfreshRun s hs
    · exact Table.get?_eq_none.mp hfreshRun s hs
  rcases admitRequest_ok hrequest with
    ⟨⟨request, hfresh, audit, rfl, hpending, horg, hid, rfl⟩, hwaits⟩ | ⟨⟨rfl, rfl⟩, hwaits⟩
  · rcases admitOutbox_ok houtbox hpart with ⟨rfl, _⟩ | ⟨_, hnot⟩
    · exact
        { organization := rfl
          key := ⟨rfl, rfl, rfl⟩
          runs := ⟨hfreshRun, rfl⟩
          terms := ⟨_, _, _, rfl⟩
          queue := .inl ⟨
            { runs := ⟨hfreshRun, rfl⟩
              status := by simp [newRun, hwaits]
              dated := ⟨by simp [newRun, hwaits, RunStatus.terminal], fun _ => rfl⟩
              fence := rfl
              outbox := rfl
              leases := rfl
              ready := fun _ => rfl
              range := fun hr => hr }, hwaits⟩
          idempotency := ⟨_, hfreshRecord, rfl, rfl, rfl, rfl, rfl, rfl⟩
          grants := rfl
          decisions := rfl
          authorities := rfl
          directory := rfl
          requests := .inl ⟨⟨request, hfresh, rfl, hpending, horg, hid, rfl⟩, hwaits⟩
          grant := rfl
          authorization := rfl }
    · rw [hwaits] at hnot
      cases hnot
  · rcases admitOutbox_ok houtbox hpart with
      ⟨_, hwait⟩ | ⟨⟨hfreshOut, parts, rfl, hcounts, hrange⟩, _⟩
    · rw [hwaits] at hwait
      cases hwait
    · exact
        { organization := rfl
          key := ⟨rfl, rfl, rfl⟩
          runs := ⟨hfreshRun, rfl⟩
          terms := ⟨_, _, _, rfl⟩
          queue := .inr ⟨⟨_,
            { outbox := ⟨hfreshOut, rfl⟩
              runs := .inl ⟨hfreshRun, rfl⟩
              status := rfl
              coupled := newOutbox_coupled rfl (by simp [newRun, hwaits]) rfl
              dated := fun _ => ⟨by simp [newRun, hwaits, RunStatus.terminal], fun _ => rfl⟩
              unqueued := hunqueued
              leases := rfl
              ready := hcounts
              below := hbelow hwaits
              range := fun _ => hrange }⟩, hwaits⟩
          idempotency := ⟨_, hfreshRecord, rfl, rfl, rfl, rfl, rfl, rfl⟩
          grants := rfl
          decisions := rfl
          authorities := rfl
          directory := rfl
          requests := .inr ⟨⟨rfl, rfl⟩, hwaits⟩
          grant := rfl
          authorization := rfl }

omit [Sha256] in
theorem freshRequestId_congr (h : after.requests = db.requests) :
    after.freshRequestId = db.freshRequestId := by
  unfold Db.freshRequestId
  rw [h]

theorem Admitted.of_idle {a : Admission} {mid : Db} {run : ProductionRun} (hidle : db.Idle mid)
    (h : Admitted a mid after run) : Admitted a db after run where
  organization := h.organization
  key := h.key
  runs := hidle.runs ▸ h.runs
  terms := h.terms
  queue := by
    rcases h.queue with ⟨hawait, hwaits⟩ | ⟨⟨o, henqueue⟩, hwaits⟩
    · exact .inl ⟨hidle.await hawait, hwaits⟩
    · exact .inr ⟨⟨o, hidle.enqueue henqueue⟩, hwaits⟩
  idempotency := hidle.idempotency ▸ h.idempotency
  grants := h.grants.trans hidle.grants
  decisions := h.decisions.trans hidle.decisions
  authorities := h.authorities.trans hidle.authorities
  directory := h.directory.trans hidle.directory
  requests := by
    have hreq := h.requests
    rwa [hidle.requests, freshRequestId_congr hidle.requests] at hreq
  grant := h.grant
  authorization := h.authorization

omit [Sha256] in
theorem idle_consistent (hidle : db.Idle after) (hc : db.Consistent) : after.Consistent :=
  (Db.Step.quiet hidle.toQuiet).consistent hc

/-- What a committed `admit_production_run` did. -/
inductive AdmitResult (a : Admission) (plane after : Plane) :
    Except Failure ProductionRun → Prop where
  | rejected {failure : Failure} (hidle : plane.db.Idle after.db) (hne : failure ≠ .integrityError) :
      AdmitResult a plane after (.error failure)
  | admitted {run : ProductionRun} (h : Admitted a plane.db after.db run) :
      AdmitResult a plane after (.ok run)

theorem admitLocked_ok {a : Admission} {visible : List OrganizationId} {plane after : Plane}
    {reply : Except Failure ProductionRun} (hc : plane.db.Consistent)
    (h : admitLocked a visible plane = .ok (reply, after)) :
    AdmitResult a plane after reply := by
  unfold admitLocked at h
  split at h
  · rcases ok_of_bind h with ⟨⟨_, db₁⟩, haudit, h⟩
    cases h
    exact .rejected (audit_idle haudit) (by simp)
  · rcases ok_of_bind h with ⟨⟨limited, db₁⟩, hlimit, h⟩
    have hidle := rateLimit_idle hlimit
    dsimp only at h
    split at h
    next failure =>
      cases h
      exact .rejected hidle (rateLimit_failure hlimit)
    next =>
      split at h
      next hwaits =>
        rcases ok_of_bind h with ⟨⟨run, db₂⟩, hinserts, h⟩
        cases h
        have hno : ¬ a.waits = false := by simp [hwaits]
        exact .admitted (Admitted.of_idle hidle
          (admitInserts_ok (idle_consistent hidle hc) (fun hf => absurd hf hno)
            (fun hf => absurd hf hno) hinserts))
      next hwaits =>
        rcases ensurePartition_idle db₁ a.organizationId a.now with ⟨hensure, hpart⟩
        have hidle₂ := hidle.trans hensure
        split at h
        next hcapacity =>
          rcases ok_of_bind h with ⟨⟨run, db₂⟩, hinserts, h⟩
          cases h
          exact .admitted (Admitted.of_idle hidle₂
            (admitInserts_ok (idle_consistent hidle₂ hc) (fun _ => capacity_below hpart hcapacity)
              (fun _ => hpart) hinserts))
        next =>
          rcases ok_of_bind h with ⟨⟨_, db₂⟩, haudit, h⟩
          rcases ok_of_bind h with ⟨⟨_, db₃⟩, haudit', h⟩
          cases h
          exact .rejected ((hidle₂.trans (audit_idle haudit)).trans (audit_idle haudit'))
            (by simp)

/-! ## Claims -/

/-- The waiting run `r` enters the queue under a claimed grant. -/
structure QueuedUnder (organizationId : OrganizationId) (request : ApprovalRequest)
    (grant : ApprovalGrant) (claim : ExecutionClaim) (r r' : ProductionRun) : Prop where
  waiting : r.status = .waitingApproval
  organization : r.organizationId = organizationId
  approval : r.approvalRequestId = some request.requestId
  action : r.actionType = request.actionType
  parameters : r.parameterHash = request.parameterHash
  status : r'.status = .queued
  terms : r' = { r with
    grantId := some grant.grantId
    executionId := some claim.executionId
    authorizationHash := claim.authorizationHash
    approvalSetHash := some grant.approvalSetHash
    status := r'.status
    version := r'.version
    queuedAt := r'.queuedAt
    auditSequence := r'.auditSequence
    updatedAt := r'.updatedAt }

theorem queueClaimedRun_ok {actor : ActorContext} {organizationId : OrganizationId}
    {runId : RunId} {now : Time} {request : ApprovalRequest} {grant : ApprovalGrant}
    {claim : ExecutionClaim} (hc : db.Consistent) (hbelow : db.readyCount organizationId < 32)
    (hpart : (db.partitions.get? organizationId).isSome)
    (h : queueClaimedRun actor organizationId runId now request grant claim db = .ok after) :
    ∃ o r r', Db.Enqueue db after o r' ∧
      Table.Replaces db.runs after.runs r r' ∧ r.runId = runId ∧
      QueuedUnder organizationId request grant claim r r' ∧
      after.requests = db.requests ∧ after.grants = db.grants ∧
      after.idempotency = db.idempotency := by
  unfold queueClaimedRun at h
  split at h
  · cases h
  next run hrun =>
    have hr := Table.one?_mem hrun
    rcases of_decide_eq_true hr.2 with ⟨horg, hrunId, hwait, hrequest, hparams, haction⟩
    dsimp only at h
    rcases ok_of_bind h with ⟨⟨sequence, db₁⟩, haudit, h⟩
    rcases appendAuditEvent_ok haudit with ⟨audit, rfl⟩
    dsimp only at h
    rcases ok_of_bind h with ⟨db₂, hinsert, h⟩
    rcases Db.insertOutbox_ok hinsert with ⟨hfresh, rfl, _⟩
    dsimp only at h
    rcases ok_of_bind h with ⟨db₃, hready, h⟩
    rcases addReady_ok hready hpart with ⟨partitions, rfl, hcounts, hrange⟩
    dsimp only at h
    rcases ok_of_bind h with ⟨db₄, htrace, h⟩
    rcases appendObservabilityEvent_ok htrace with ⟨traces, rfl⟩
    rcases appendObservabilityEvent_ok h with ⟨traces', rfl⟩
    let r' : ProductionRun :=
      { run with
        grantId := some grant.grantId
        executionId := some claim.executionId
        authorizationHash := claim.authorizationHash
        approvalSetHash := some grant.approvalSetHash
        status := .queued
        version := run.version + 1
        queuedAt := some now
        updatedAt := now
        auditSequence := sequence }
    have hfence : r'.fencingToken = 0 := hc.unleased run hr.1 hwait
    have hcoupled : Coupled (newOutbox db.freshOutboxId organizationId r'.runId now) r' :=
      newOutbox_coupled horg rfl hfence
    rw [show r'.runId = runId from hrunId] at hcoupled
    refine ⟨newOutbox db.freshOutboxId organizationId runId now, run, r', ?_,
      Table.replaces_update hr.1 (by simp [hrunId]) (by simp +contextual [hrunId]), hrunId,
      ⟨hwait, horg, hrequest, haction, hparams, rfl, rfl⟩, rfl, rfl, rfl⟩
    exact
      { outbox := ⟨hfresh, rfl⟩
        runs := .inr ⟨run, hwait, rfl,
          Table.replaces_update hr.1 (by simp [hrunId]) (by simp +contextual [hrunId])⟩
        status := rfl
        coupled := hcoupled
        dated := fun h => (h run hr.1).going (by simp [hwait, RunStatus.terminal])
          (by simp [RunStatus.terminal]) rfl
        unqueued := fun x hx => by
          have hmiss := hc.waiting run hr.1 hwait x hx
          rwa [hrunId] at hmiss
        leases := rfl
        ready := hcounts
        below := hbelow
        range := fun _ => hrange }

/-- The state in which `on_claim` is called: grant and request are claimed. -/
structure GrantTaken (actor : ActorContext) (request : ApprovalRequest) (grant : ApprovalGrant)
    (now : Time) (db mid : Db) (claimed : ApprovalRequest) (taken : ApprovalGrant)
    (claim : ExecutionClaim) : Prop where
  quiet : db.Quiet mid
  current : ∃ current ∈ db.grants.rows, current.organizationId = request.organizationId ∧
    current.grantId = grant.grantId ∧ current.status = .issued ∧
    current.version = grant.version ∧ now < current.expiresAt ∧
    taken = { current with
      status := .claimed
      version := current.version + 1
      executionId := some claim.executionId
      authorizationHash := some actor.authorizationHash
      claimedAt := some now
      updatedAt := now } ∧
    Table.Replaces db.grants mid.grants current taken
  claimed_terms : claimed = { request with
    status := .claimed
    version := request.version + 1
    updatedAt := now
    auditSequence := claimed.auditSequence }
  requests : mid.requests = (writeRequest db claimed).requests
  execution : claim.executionId = db.freshExecutionId
  authorization : claim.authorizationHash = actor.authorizationHash
  directory : mid.directory = db.directory
  authorities : mid.authorities = db.authorities
  decisions : mid.decisions = db.decisions
  idempotency : mid.idempotency = db.idempotency
  partitions : mid.partitions = db.partitions

/-- What follows the claim in the same transaction. -/
def ranOnClaim (claimed : ApprovalRequest) (taken : ApprovalGrant) (claim : ExecutionClaim)
    (mid after : Db) : Option OnClaim → Prop
  | none => after = mid
  | some onClaim => onClaim claimed taken claim mid = .ok after

theorem commitClaim_ok {actor : ActorContext} {request : ApprovalRequest}
    {grant : ApprovalGrant} {now : Time} {onClaim : Option OnClaim} {claim : ExecutionClaim}
    (h : commitClaim actor request grant now onClaim db = .ok (claim, after)) :
    ∃ mid claimed taken, GrantTaken actor request grant now db mid claimed taken claim ∧
      ranOnClaim claimed taken claim mid after onClaim := by
  unfold commitClaim at h
  dsimp only at h
  split at h
  · cases h
  next current hcurrent =>
    have hg := Table.one?_mem hcurrent
    rcases of_decide_eq_true hg.2 with ⟨horg, hid, hissued, hversion, hlive⟩
    rcases ok_of_bind h with ⟨⟨sequence, db₁⟩, haudit, h⟩
    rcases appendAuditEvent_ok haudit with ⟨audit, rfl⟩
    dsimp only at h
    rcases ok_of_bind h with ⟨⟨_, db₂⟩, hstarted, h⟩
    rcases appendAuditEvent_ok hstarted with ⟨audit', rfl⟩
    dsimp only [writeRequest] at h
    let taken : ApprovalGrant :=
      { current with
        status := .claimed
        version := current.version + 1
        executionId := some db.freshExecutionId
        authorizationHash := some actor.authorizationHash
        claimedAt := some now
        updatedAt := now }
    let claimed : ApprovalRequest :=
      { request with
        status := .claimed
        version := request.version + 1
        updatedAt := now
        auditSequence := sequence }
    have hcurrent : ∃ current ∈ db.grants.rows, current.organizationId = request.organizationId ∧
        current.grantId = grant.grantId ∧ current.status = .issued ∧
        current.version = grant.version ∧ now < current.expiresAt ∧
        taken = { current with
          status := .claimed
          version := current.version + 1
          executionId := some db.freshExecutionId
          authorizationHash := some actor.authorizationHash
          claimedAt := some now
          updatedAt := now } ∧
        Table.Replaces db.grants
          (db.grants.update (fun g => g.grantId = grant.grantId) fun g =>
            { g with
              status := .claimed
              version := g.version + 1
              executionId := some db.freshExecutionId
              authorizationHash := some actor.authorizationHash
              claimedAt := some now
              updatedAt := now }) current taken :=
      ⟨current, hg.1, horg, hid, hissued, hversion, hlive, rfl,
        Table.replaces_update hg.1 (by simp [hid]) (by simp +contextual [hid])⟩
    split at h
    next =>
      cases h
      refine ⟨_, claimed, taken, ?_, rfl⟩
      exact ⟨⟨rfl, rfl, rfl, fun _ => rfl, fun hr => hr⟩, hcurrent, rfl, rfl, rfl, rfl, rfl, rfl,
        rfl, rfl, rfl⟩
    next f =>
      rcases ok_of_bind h with ⟨db₃, hclaim, h⟩
      cases h
      refine ⟨_, claimed, taken, ?_, hclaim⟩
      exact ⟨⟨rfl, rfl, rfl, fun _ => rfl, fun hr => hr⟩, hcurrent, rfl, rfl, rfl, rfl, rfl, rfl,
        rfl, rfl, rfl⟩

/-- What a committed `claim_grant` did. -/
inductive ClaimResult (actor : ActorContext) (now : Time) (onClaim : Option OnClaim)
    (rows : ClaimRows) (checks : Except Failure Unit) (committed : Db) (plane after : Plane) :
    Except Failure ExecutionClaim → Prop where
  | rejected {failure : Failure} (hidle : plane.db.Idle after.db ∨ committed.Idle after.db)
      (hne : failure ≠ .integrityError) :
      ClaimResult actor now onClaim rows checks committed plane after (.error failure)
  | claimed {request : ApprovalRequest} {grant : ApprovalGrant} {claim : ExecutionClaim}
      (hrequest : rows.request = some request) (hgrant : rows.grant = some grant)
      (hexecutor : actor.userId = request.executorUserId)
      (hproduction : rows.production → onClaim.isSome) (hchecks : checks = .ok ())
      (hcommit : commitClaim actor request grant now onClaim plane.db = .ok (claim, after.db)) :
      ClaimResult actor now onClaim rows checks committed plane after (.ok claim)

theorem claimGrant_ok {actor : ActorContext} {organizationId : OrganizationId}
    {requestId : RequestId} {now : Time} {onClaim : Option OnClaim} {rows : ClaimRows}
    {checks : Except Failure Unit} {committed : Db} {plane after : Plane}
    {reply : Except Failure ExecutionClaim}
    (h : claimGrant actor organizationId requestId now onClaim rows checks committed plane =
      .ok (reply, after)) :
    ClaimResult actor now onClaim rows checks committed plane after reply := by
  unfold claimGrant at h
  split at h
  · cases h
  split at h
  next request grant hrequest hgrant =>
    split at h
    · rcases ok_of_bind h with ⟨⟨_, db₁⟩, haudit, h⟩
      cases h
      exact .rejected (.inl (audit_idle haudit)) (by simp)
    next hallowed =>
      have hexecutor : actor.userId = request.executorUserId := by
        by_contra hne
        exact hallowed (.inl hne)
      have hproduction : rows.production → onClaim.isSome := by
        intro hp
        by_contra hnone
        exact hallowed (.inr ⟨hp, by simpa using hnone⟩)
      split at h
      next claim db₁ hcommit =>
        cases h
        rcases ok_of_bind hcommit with ⟨_, hchecks, hcommit⟩
        exact .claimed hrequest hgrant hexecutor hproduction hchecks hcommit
      next failure _ =>
        split at h
        next hkind =>
          have hne : failure ≠ .integrityError := by
            rintro rfl
            rcases hkind with hk | hk <;> cases hk
          dsimp only at h
          split at h
          next haudit =>
            cases h
            exact .rejected (.inr (audit_idle haudit)) hne
          · cases h
            exact .rejected (.inr (Db.Idle.refl committed)) hne
        · cases h
  next =>
    dsimp only at h
    rcases ok_of_bind h with ⟨⟨_, db₁⟩, haudit, h⟩
    cases h
    exact .rejected (.inl (audit_idle haudit)) (by simp)

/-- What a committed `claim_production_run` did. -/
inductive RunClaimResult (actor : ActorContext) (organizationId : OrganizationId)
    (runId : RunId) (now : Time) (reads : RunClaimReads) (db after : Db) : Prop where
  | idle (h : db.Idle after)
  | queued {run r r' : ProductionRun} {o : DispatchOutbox} {requestId : RequestId}
      {request claimed : ApprovalRequest} {grant taken : ApprovalGrant} {claim : ExecutionClaim}
      {start mid : Db}
      (hrun : reads.run = some run) (hrequestId : run.approvalRequestId = some requestId)
      (hrequest : reads.rows.request = some request) (hgrant : reads.rows.grant = some grant)
      (hexecutor : actor.userId = request.executorUserId) (hchecks : reads.checks = .ok ())
      (hstart : db.Idle start)
      (htaken : GrantTaken actor request grant now start mid claimed taken claim)
      (henqueue : Db.Enqueue db after o r')
      (hruns : Table.Replaces db.runs after.runs r r') (hid : r.runId = runId)
      (hterms : QueuedUnder organizationId claimed taken claim r r')
      (hrequests : after.requests = mid.requests) (hgrants : after.grants = mid.grants)
      (hidempotency : after.idempotency = db.idempotency)

theorem claimProductionRun_ok {actor : ActorContext} {organizationId : OrganizationId}
    {runId : RunId} {expectedVersion : Nat} {now : Time} {reads : RunClaimReads}
    {plane after : Plane} {reply : Except Failure ProductionRun} (hc : plane.db.Consistent)
    (h : claimProductionRun actor organizationId runId expectedVersion now reads plane =
      .ok (reply, after)) :
    RunClaimResult actor organizationId runId now reads plane.db after.db := by
  unfold claimProductionRun at h
  split at h
  · cases h
  rcases ok_of_bind h with ⟨⟨limited, db₁⟩, hlimit, h⟩
  have hidle := rateLimit_idle hlimit
  dsimp only at h
  split at h
  · cases h
    exact .idle hidle
  split at h
  · cases h
  next run hrun =>
    split at h
    · cases h
    next requestId hrequestId =>
      split at h
      · cases h
      rcases ensurePartition_idle db₁ organizationId now with ⟨hensure, hpart⟩
      have hstart := hidle.trans hensure
      split at h
      · rcases ok_of_bind h with ⟨⟨_, db₂⟩, haudit, h⟩
        cases h
        exact .idle (hstart.trans (audit_idle haudit))
      next hcapacity =>
        rcases ok_of_bind h with ⟨⟨claimed, after'⟩, hclaim, h⟩
        have hafter : after = after' := by
          dsimp only at h
          split at h
          · cases h
            rfl
          · split at h
            · cases h
              rfl
            · cases h
              rfl
        subst hafter
        cases claimGrant_ok hclaim with
        | rejected hidle' _ =>
            rcases hidle' with hidle' | hidle'
            · exact .idle (hstart.trans hidle')
            · exact .idle hidle'
        | claimed hrequest hgrant hexecutor _ hchecks hcommit =>
            rcases commitClaim_ok hcommit with ⟨mid, request', taken, htaken, hqueue⟩
            have hmid := htaken.quiet
            have hpart' : (mid.partitions.get? organizationId).isSome := by
              rw [htaken.partitions]
              exact hpart
            have hbelow : mid.readyCount organizationId < 32 := by
              rw [hmid.ready]
              exact capacity_below hpart (by simpa using hcapacity)
            have hquiet := hstart.toQuiet.trans hmid
            rcases queueClaimedRun_ok ((Db.Step.quiet hquiet).consistent hc) hbelow hpart' hqueue
              with ⟨o, r, r', henqueue, hruns, hid, hterms, hrequests, hgrants, hrecords⟩
            exact .queued hrun hrequestId hrequest hgrant hexecutor hchecks hstart htaken
              (hquiet.enqueue henqueue) (hquiet.runs ▸ hruns) hid hterms hrequests hgrants
              (hrecords.trans (htaken.idempotency.trans hstart.idempotency))

/-! ## Cancellation -/

theorem cancelRequest_ok {actor : ActorContext} {organizationId : OrganizationId}
    {requestId : RequestId} {now : Time}
    (h : cancelRequest actor organizationId requestId now db = .ok after) :
    ∃ requests audit, after = { db with requests := requests, audit := audit } := by
  unfold cancelRequest at h
  split at h
  · cases h
    exact ⟨_, _, rfl⟩
  · split at h
    · rcases ok_of_bind h with ⟨⟨sequence, db₁⟩, haudit, h⟩
      rcases appendAuditEvent_ok haudit with ⟨audit, rfl⟩
      cases h
      exact ⟨_, audit, rfl⟩
    · cases h
      exact ⟨_, _, rfl⟩

theorem cancelGrant_ok {actor : ActorContext} {organizationId : OrganizationId}
    {requestId : RequestId} {now : Time} {grantId : Option GrantId}
    (h : cancelGrant actor organizationId requestId now db = .ok (grantId, after)) :
    ∃ grants audit, after = { db with grants := grants, audit := audit } := by
  unfold cancelGrant at h
  split at h
  · cases h
    exact ⟨_, _, rfl⟩
  · split at h
    · dsimp only at h
      split at h
      · rcases ok_of_bind h with ⟨⟨sequence, db₁⟩, haudit, h⟩
        rcases appendAuditEvent_ok haudit with ⟨audit, rfl⟩
        cases h
        exact ⟨_, audit, rfl⟩
      · cases h
        exact ⟨_, _, rfl⟩
    · cases h
      exact ⟨_, _, rfl⟩

theorem cancelApproval_ok {actor : ActorContext} {organizationId : OrganizationId}
    {requestId : Option RequestId} {now : Time} {grantId : Option GrantId}
    (h : cancelApproval actor organizationId requestId now db = .ok (grantId, after)) :
    ∃ requests grants audit, after =
      { db with requests := requests, grants := grants, audit := audit } := by
  unfold cancelApproval at h
  split at h
  · cases h
    exact ⟨_, _, _, rfl⟩
  · rcases ok_of_bind h with ⟨db₁, hrequest, h⟩
    rcases cancelRequest_ok hrequest with ⟨requests, audit, rfl⟩
    rcases cancelGrant_ok h with ⟨grants, audit', rfl⟩
    exact ⟨_, _, _, rfl⟩

/-- What a committed `cancel_production_run` did: the queue, and the approval in between. -/
inductive CancelResult (actor : ActorContext) (organizationId : OrganizationId) (now : Time)
    (db after : Db) : Prop where
  | idle (h : db.Idle after)
  | withdrawn {r r' : ProductionRun} {start mid : Db} {grantId : Option GrantId}
      (hstart : db.Idle start) (h : Db.Withdraw db after r r')
      (hfixed : r'.fixed = r.fixed)
      (horg : r.organizationId = organizationId)
      (happroval : cancelApproval actor organizationId r.approvalRequestId now start =
        .ok (grantId, mid))
      (hrequests : after.requests = mid.requests) (hgrants : after.grants = mid.grants)
      (hidempotency : after.idempotency = db.idempotency)
  | moved {o o' : DispatchOutbox} {r r' : ProductionRun} {start mid : Db}
      {grantId : Option GrantId} (hsame : start.requests = db.requests ∧ start.grants = db.grants)
      (h : Db.Move db after o o' r r') (hstatus : r'.status = .cancelled)
      (horg : r.organizationId = organizationId)
      (happroval : cancelApproval actor organizationId r.approvalRequestId now start =
        .ok (grantId, mid))
      (hrequests : after.requests = mid.requests) (hgrants : after.grants = mid.grants)
      (hidempotency : after.idempotency = db.idempotency)

/-- `cancel_production_run` from the locked rows on. -/
theorem cancelLocked_ok {actor : ActorContext} {organizationId : OrganizationId}
    {run : ProductionRun} {outbox : Option DispatchOutbox} {now : Time} {plane after : Plane}
    {start : Db} {reply : Except Failure ProductionRun} (hstart : db.Idle start)
    (hr : run ∈ start.runs.rows) (horg : run.organizationId = organizationId)
    (h : cancelLocked actor organizationId run outbox now plane start = .ok (reply, after))
    (hrows : match outbox with
      | none => run.status = .waitingApproval
      | some o => o ∈ start.outbox.rows ∧ Coupled o run ∧ o.status.active) :
    CancelResult actor organizationId now db after.db := by
  unfold cancelLocked at h
  rcases ok_of_bind h with ⟨db₁, hout, h⟩
  rcases ok_of_bind h with ⟨⟨grantId, db₂⟩, happroval, h⟩
  have happroval' := happroval
  rcases cancelApproval_ok happroval with ⟨requests, grants, audit, rfl⟩
  dsimp only at h
  rcases ok_of_bind h with ⟨⟨sequence, db₃⟩, haudit, h⟩
  rcases appendAuditEvent_ok haudit with ⟨audit', rfl⟩
  dsimp only at h
  rcases ok_of_bind h with ⟨db₄, htrace, h⟩
  rcases appendObservabilityEvent_ok htrace with ⟨traces, rfl⟩
  cases h
  let r' : ProductionRun :=
    { run with
      status := .cancelled
      version := run.version + 1
      finishedAt := some now
      terminalReason := some .cancelledByActor
      updatedAt := now
      auditSequence := sequence }
  cases outbox with
  | none =>
      cases hout
      refine .withdrawn hstart (?_ : Db.Withdraw db _ run r') rfl horg happroval' rfl rfl
        hstart.idempotency
      apply hstart.toQuiet.withdraw
      exact
        { runs := Table.replaces_update hr (by simp) (by simp +contextual)
          waiting := hrows
          status := rfl
          dated := .ended (.inr (.inr (.inl rfl))) rfl
          fence := rfl
          outbox := rfl
          leases := rfl
          ready := fun _ => rfl
          range := fun hr => hr }
  | some o =>
      rcases hrows with ⟨ho, hor, hactive⟩
      rcases ok_of_bind hout with ⟨db₅, hupdate, hout⟩
      rcases Db.updateOutbox_ok hupdate with ⟨rfl, _⟩
      rcases Db.updatePartition_ok hout with ⟨rfl, hrange⟩
      let o' : DispatchOutbox := { o with status := .cancelled, updatedAt := now }
      refine .moved ?_ (?_ : Db.Move db _ o o' run r') rfl horg happroval' rfl rfl
        hstart.idempotency
      · exact ⟨hstart.requests, hstart.grants⟩
      apply hstart.toQuiet.move
      refine
        { outbox := Table.replaces_update ho (by simp) (by simp +contextual)
          runs := Table.replaces_update hr (by simp) (by simp +contextual)
          outbox_fixed := rfl
          run_fixed := rfl
          active := hactive
          before := hor
          coupled := hor.finish rfl rfl rfl (by simp [OutboxStatus.active])
          dated := fun _ => .ended (.inr (.inr (.inl rfl))) rfl
          fence := .inl ⟨rfl, by simp [o', OutboxStatus.held]⟩
          leases := .inl rfl
          ready := ?_
          range := fun _ => hrange }
      intro hready org
      have hoOrg : o.organizationId = organizationId := hor.organization.trans horg
      rw [hoOrg] at hready ⊢
      -- The counter is positive, so the floor at zero does not matter.
      refine Db.readyIn_drop .cancelled (by simp [OutboxStatus.active]) hready org (by intro _; rfl) ?_
      intro p hp
      have hpositive : 1 ≤ p.readyCount := by
        unfold Db.readyCount Db.readyIn at hready
        rwa [hp] at hready
      show max 0 (p.readyCount - 1) = p.readyCount - 1
      omega

theorem cancelProductionRun_ok {actor : ActorContext} {organizationId : OrganizationId}
    {runId : RunId} {expectedVersion : Nat} {now : Time} {current : Option ProductionRun}
    {plane after : Plane} {reply : Except Failure ProductionRun} (hc : plane.db.Consistent)
    (h : cancelProductionRun actor organizationId runId expectedVersion now current plane =
      .ok (reply, after)) :
    CancelResult actor organizationId now plane.db after.db := by
  unfold cancelProductionRun at h
  split at h
  · cases h
  rcases ok_of_bind h with ⟨⟨limited, db₁⟩, hlimit, h⟩
  have hidle := rateLimit_idle hlimit
  dsimp only at h
  split at h
  · cases h
    exact .idle hidle
  split at h
  · cases h
  split at h
  · cases h
  split at h
  · split at h
    · cases h
    next run hrun =>
      have hr := Table.one?_mem hrun
      rcases of_decide_eq_true hr.2 with ⟨horg, _, _, hwait⟩
      exact cancelLocked_ok hidle hr.1 horg h hwait
  · split at h
    · have hstart := hidle.trans (ensurePartition_idle db₁ organizationId now).1
      split at h
      · cases h
      next run hrun =>
        have hr := Table.one?_mem hrun
        rcases of_decide_eq_true hr.2 with ⟨horg, hid, _, hstatus⟩
        split at h
        · cases h
        next o ho =>
          have ho := Table.one?_mem ho
          rcases of_decide_eq_true ho.2 with ⟨_, hrunId, hactive⟩
          have hor := (idle_consistent hstart hc).coupled_run ho.1 hr.1 (hrunId.trans hid.symm)
          exact cancelLocked_ok hstart hr.1 horg h ⟨ho.1, hor, hactive⟩
    · cases h

/-! ## The steps -/

theorem AdmitResult.step {a : Admission} {plane after : Plane}
    {reply : Except Failure ProductionRun} (h : AdmitResult a plane after reply) :
    Db.Step plane.db after.db := by
  cases h with
  | rejected hidle _ => exact .quiet hidle.toQuiet
  | admitted h =>
      rcases h.queue with ⟨hawait, _⟩ | ⟨⟨o, henqueue⟩, _⟩
      · exact .await hawait
      · exact .enqueue henqueue

omit [Sha256] in
theorem RunClaimResult.step {actor : ActorContext} {organizationId : OrganizationId}
    {runId : RunId} {now : Time} {reads : RunClaimReads}
    (h : RunClaimResult actor organizationId runId now reads db after) : Db.Step db after := by
  cases h with
  | idle h => exact .quiet h.toQuiet
  | queued _ _ _ _ _ _ _ _ henqueue => exact .enqueue henqueue

theorem CancelResult.step {actor : ActorContext} {organizationId : OrganizationId} {now : Time}
    (h : CancelResult actor organizationId now db after) : Db.Step db after := by
  cases h with
  | idle h => exact .quiet h.toQuiet
  | withdrawn _ h => exact .withdraw h
  | moved _ h => exact .move h

end FlowPilot.Control
