import FlowPilot.Control.Production
import FlowPilot.Trace.WorkerTraces

/-!
# The trace events of the Control API's operations

An admission or a claim of a run writes at most two events, and a cancellation one.
-/

open FlowPilot.Lib Relation

namespace FlowPilot.Control

/-! ## Parts that write no trace event -/

section

variable {db : Db} {traces : List ObservabilityEvent} (hdb : db.traces = traces)

include hdb

theorem insertRun_keeps {run : ProductionRun} : Keeps traces id (db.insertRun run) := by
  unfold Db.insertRun
  split
  · exact .error rfl
  · split
    · exact .error rfl
    · exact .ok hdb

theorem insertOutbox_keeps {outbox : DispatchOutbox} : Keeps traces id (db.insertOutbox outbox) := by
  unfold Db.insertOutbox
  split
  · exact .error rfl
  · split
    · exact .error rfl
    · split
      · exact .error rfl
      · exact .ok hdb

theorem insertRequest_keeps {request : ApprovalRequest} :
    Keeps traces id (db.insertRequest request) := by
  unfold Db.insertRequest
  split
  · exact .error rfl
  · exact .ok hdb

theorem insertIdempotency_keeps {record : IdempotencyRecord} :
    Keeps traces id (db.insertIdempotency record) := by
  unfold Db.insertIdempotency
  split
  · exact .error rfl
  · exact .ok hdb

theorem addReady_keeps {organizationId : OrganizationId} {now : Time} :
    Keeps traces id (addReady db organizationId now) := by
  unfold addReady
  exact updatePartition_keeps hdb

theorem ensureBucket_keeps {organizationId : OrganizationId} {bucketKeyHash : Digest}
    {scopeKind : ScopeKind} {routeClass : RouteClass} {burst : Nat} {now : Time} :
    Keeps traces Prod.snd
      (ensureBucket db organizationId bucketKeyHash scopeKind routeClass burst now) := by
  unfold ensureBucket
  dsimp only
  split
  · exact .error rfl
  · exact .ok hdb

variable [Sha256]

theorem appendAuditEvent_keeps {organizationId : OrganizationId} {eventType : AuditEventType}
    {actorReference : Digest} {subjectReference : String} {payload : List (String × Json)}
    {now : Time} :
    Keeps traces Prod.snd (appendAuditEvent db organizationId eventType actorReference
      subjectReference payload now) := by
  unfold appendAuditEvent
  split
  · exact .error rfl
  · have hclosed : Keeps traces (fun _ => db) (closedPayload payload) := by
      unfold closedPayload
      split
      · split
        · exact .error rfl
        · exact .ok hdb
      · exact .error rfl
    apply Keeps.bind hclosed
    intro closed _
    split
    · exact .error rfl
    · split
      · exact .error rfl
      · exact .ok hdb

theorem consumeRateLimit_keeps {actor : ActorContext} {routeClass : RouteClass} {now : Time} :
    Keeps traces Prod.snd (consumeRateLimit db actor routeClass now) := by
  unfold consumeRateLimit
  apply Keeps.bind (ensureBucket_keeps hdb)
  rintro ⟨actorBucket, db₁⟩ h₁
  apply Keeps.bind (ensureBucket_keeps h₁)
  rintro ⟨organizationBucket, db₂⟩ h₂
  dsimp only
  split
  · exact .ok h₂
  · exact .ok h₂

theorem rateLimit_keeps {actor : ActorContext} {routeClass : RouteClass}
    {subjectReference : String} {now : Time} :
    Keeps traces Prod.snd (consumeRateLimitOrAudit db actor routeClass subjectReference now) := by
  unfold consumeRateLimitOrAudit
  apply Keeps.bind (consumeRateLimit_keeps hdb)
  rintro ⟨limited, db₁⟩ h₁
  dsimp only
  split
  · exact .ok h₁
  · apply Keeps.bind (appendAuditEvent_keeps h₁)
    rintro ⟨sequence, db₂⟩ h₂
    exact .ok h₂

omit [Sha256] in
theorem cancelOutbox_keeps {organizationId : OrganizationId} {outbox : Option DispatchOutbox}
    {now : Time} : Keeps traces id (cancelOutbox organizationId outbox now db) := by
  unfold cancelOutbox
  split
  · exact .ok hdb
  · apply Keeps.bind (updateOutbox_keeps hdb)
    intro db₁ h₁
    exact updatePartition_keeps h₁

theorem cancelRequest_keeps {actor : ActorContext} {organizationId : OrganizationId}
    {requestId : RequestId} {now : Time} :
    Keeps traces id (cancelRequest actor organizationId requestId now db) := by
  unfold cancelRequest
  split
  · exact .ok hdb
  · split
    · apply Keeps.bind (appendAuditEvent_keeps hdb)
      rintro ⟨sequence, db₁⟩ h₁
      exact .ok h₁
    · exact .ok hdb

theorem cancelGrant_keeps {actor : ActorContext} {organizationId : OrganizationId}
    {requestId : RequestId} {now : Time} :
    Keeps traces Prod.snd (cancelGrant actor organizationId requestId now db) := by
  unfold cancelGrant
  split
  · exact .ok hdb
  · split
    · dsimp only
      split
      · apply Keeps.bind (appendAuditEvent_keeps (by exact hdb))
        rintro ⟨sequence, db₁⟩ h₁
        exact .ok h₁
      · exact .ok hdb
    · exact .ok hdb

theorem cancelApproval_keeps {actor : ActorContext} {organizationId : OrganizationId}
    {requestId : Option RequestId} {now : Time} :
    Keeps traces Prod.snd (cancelApproval actor organizationId requestId now db) := by
  unfold cancelApproval
  split
  · exact .ok hdb
  · apply Keeps.bind (cancelRequest_keeps hdb)
    intro db₁ h₁
    exact cancelGrant_keeps h₁

theorem admitRequest_keeps {a : Admission} : Keeps traces Prod.snd (admitRequest a db) := by
  unfold admitRequest
  split
  · apply Keeps.bind (appendAuditEvent_keeps hdb)
    rintro ⟨sequence, db₁⟩ h₁
    apply Keeps.bind (insertRequest_keeps h₁)
    intro db₂ h₂
    exact .ok h₂
  · exact .ok hdb

omit [Sha256] in
theorem admitOutbox_keeps {a : Admission} {run : ProductionRun} :
    Keeps traces Prod.snd (admitOutbox a run db) := by
  unfold admitOutbox
  split
  · exact .ok hdb
  · apply Keeps.bind (insertOutbox_keeps hdb)
    intro db₁ h₁
    apply Keeps.bind (addReady_keeps h₁)
    intro db₂ h₂
    exact .ok h₂

end

/-! ## Operations -/

variable [Sha256] {db after : Db}

theorem admitInserts_grows {a : Admission} {run : ProductionRun}
    (h : admitInserts a db = .ok (run, after)) :
    Grows TraceEntry.Plain db.traces after.traces := by
  unfold admitInserts at h
  obtain ⟨⟨_, db₁⟩, haudit, h⟩ := ok_of_bind h
  have h₁ : db₁.traces = db.traces := (appendAuditEvent_keeps rfl).same _ haudit
  rw [← h₁]
  refine (?_ : Writes TraceEntry.Plain a.organizationId db₁.freshRunId 2 db₁.traces Prod.snd
    _).grows _ h
  apply Keeps.then (admitRequest_keeps rfl)
  rintro ⟨requestId, db₂⟩ h₂
  apply Keeps.then (appendAuditEvent_keeps h₂)
  rintro ⟨sequence, db₃⟩ h₃
  apply Keeps.then (insertRun_keeps h₃)
  intro db₄ h₄
  apply Keeps.then (insertIdempotency_keeps h₄)
  intro db₅ h₅
  apply Keeps.then (admitOutbox_keeps h₅)
  rintro ⟨outbox, db₆⟩ h₆
  apply Writes.bind (m := 1) (n := 1) (appendObservabilityEvent_writes h₆ (.of_valid (by exact rfl)))
  intro db₇ _
  split
  · exact .ok rfl
  · apply Writes.bind (n := 0) (appendObservabilityEvent_writes rfl (.of_valid (by exact rfl)))
    intro db₈ _
    exact .ok rfl

theorem admitLocked_grows {a : Admission} {visible : List OrganizationId} {plane plane' : Plane}
    {reply : Except Failure ProductionRun}
    (h : admitLocked a visible plane = .ok (reply, plane')) :
    Grows TraceEntry.Plain plane.db.traces plane'.db.traces := by
  unfold admitLocked at h
  split at h
  · obtain ⟨⟨_, db₁⟩, haudit, h⟩ := ok_of_bind h
    cases h
    have h₁ : db₁.traces = plane.db.traces := (appendAuditEvent_keeps rfl).same _ haudit
    rw [← h₁]
  · obtain ⟨⟨limited, db₁⟩, hlimit, h⟩ := ok_of_bind h
    have h₁ : db₁.traces = plane.db.traces := (rateLimit_keeps rfl).same _ hlimit
    rw [← h₁]
    dsimp only at h
    split at h
    · cases h
      exact .refl
    · split at h
      · obtain ⟨⟨run, db₂⟩, hinserts, h⟩ := ok_of_bind h
        cases h
        exact admitInserts_grows hinserts
      · split at h
        · obtain ⟨⟨run, db₂⟩, hinserts, h⟩ := ok_of_bind h
          cases h
          have hgrows := admitInserts_grows hinserts
          exact hgrows
        · obtain ⟨⟨_, db₂⟩, haudit, h⟩ := ok_of_bind h
          obtain ⟨⟨_, db₃⟩, haudit', h⟩ := ok_of_bind h
          cases h
          have h₂ : db₂.traces = db₁.traces := (appendAuditEvent_keeps rfl).same _ haudit
          have h₃ : db₃.traces = db₁.traces := (appendAuditEvent_keeps h₂).same _ haudit'
          rw [← h₃]

theorem queueClaimedRun_writes {actor : ActorContext} {organizationId : OrganizationId}
    {runId : RunId} {now : Time} {request : ApprovalRequest}
    {grant : ApprovalGrant} {claim : ExecutionClaim} {traces : List ObservabilityEvent}
    (hdb : db.traces = traces) :
    Writes TraceEntry.Plain organizationId runId 2 traces id
      (queueClaimedRun actor organizationId runId now request grant claim db) := by
  unfold queueClaimedRun
  split
  · exact .error rfl
  · apply Keeps.then (appendAuditEvent_keeps hdb)
    rintro ⟨sequence, db₁⟩ h₁
    apply Keeps.then (insertOutbox_keeps (by exact h₁))
    intro db₂ h₂
    apply Keeps.then (addReady_keeps h₂)
    intro db₃ h₃
    apply Writes.bind (m := 1) (n := 1) (appendObservabilityEvent_writes h₃ (.of_valid (by exact rfl)))
    intro db₄ _
    exact appendObservabilityEvent_writes rfl (.of_valid (by exact rfl))

theorem commitClaim_writes {actor : ActorContext} {organizationId : OrganizationId}
    {runId : RunId} {now : Time} {request : ApprovalRequest}
    {grant : ApprovalGrant} :
    Writes TraceEntry.Plain organizationId runId 2 db.traces Prod.snd
      (commitClaim actor request grant now
        (some (queueClaimedRun actor organizationId runId now)) db) := by
  unfold commitClaim
  dsimp only
  split
  · exact .error rfl
  · apply Keeps.then (appendAuditEvent_keeps (by exact rfl))
    rintro ⟨sequence, db₁⟩ h₁
    apply Keeps.then (appendAuditEvent_keeps h₁)
    rintro ⟨_, db₂⟩ h₂
    apply Writes.bind (m := 2) (n := 0) (queueClaimedRun_writes (by exact h₂))
    intro db₃ _
    exact .ok rfl

theorem claimGrant_grows {actor : ActorContext} {organizationId : OrganizationId}
    {requestId : RequestId} {runId : RunId} {now : Time}
    {rows : ClaimRows} {checks : Except Failure Unit} {committed : Db} {plane plane' : Plane}
    {reply : Except Failure ExecutionClaim} (hplane : plane.db.traces = committed.traces)
    (h : claimGrant actor organizationId requestId now
      (some (queueClaimedRun actor organizationId runId now)) rows checks committed plane =
      .ok (reply, plane')) :
    Grows TraceEntry.Plain committed.traces plane'.db.traces := by
  unfold claimGrant at h
  split at h
  · cases h
  · split at h
    · split at h
      · obtain ⟨⟨_, db₁⟩, haudit, h⟩ := ok_of_bind h
        cases h
        have h₁ : db₁.traces = committed.traces := (appendAuditEvent_keeps hplane).same _ haudit
        rw [← h₁]
      · split at h
        · next claim db₁ hcommit =>
            cases h
            obtain ⟨_, _, hcommit⟩ := ok_of_bind hcommit
            rw [← hplane]
            exact commitClaim_writes.grows _ hcommit
        · split at h
          · dsimp only at h
            split at h
            · next haudit =>
                cases h
                have h₁ := (appendAuditEvent_keeps rfl).same _ haudit
                exact h₁ ▸ .refl
            · cases h
              exact .refl
          · cases h
    · obtain ⟨⟨_, db₁⟩, haudit, h⟩ := ok_of_bind h
      cases h
      have h₁ : db₁.traces = committed.traces := (appendAuditEvent_keeps hplane).same _ haudit
      rw [← h₁]

theorem claimProductionRun_grows {actor : ActorContext} {organizationId : OrganizationId}
    {runId : RunId} {expectedVersion : Nat} {now : Time} {reads : RunClaimReads}
    {plane plane' : Plane} {reply : Except Failure ProductionRun}
    (h : claimProductionRun actor organizationId runId expectedVersion now reads plane =
      .ok (reply, plane')) :
    Grows TraceEntry.Plain plane.db.traces plane'.db.traces := by
  unfold claimProductionRun at h
  split at h
  · cases h
  obtain ⟨⟨limited, db₁⟩, hlimit, h⟩ := ok_of_bind h
  have h₁ : db₁.traces = plane.db.traces := (rateLimit_keeps rfl).same _ hlimit
  dsimp only at h
  split at h
  · cases h
    rw [← h₁]
  split at h
  · cases h
  split at h
  · cases h
  split at h
  · cases h
  split at h
  · obtain ⟨⟨_, db₂⟩, haudit, h⟩ := ok_of_bind h
    cases h
    have h₂ : db₂.traces = plane.db.traces := (appendAuditEvent_keeps (by exact h₁)).same _ haudit
    rw [← h₂]
  · obtain ⟨⟨claimed, after'⟩, hclaim, h⟩ := ok_of_bind h
    have hgrows := claimGrant_grows (by exact h₁) hclaim
    dsimp only at h
    split at h
    · cases h
      exact hgrows
    · split at h
      · cases h
        exact hgrows
      · cases h
        exact hgrows

/-! ## cancel_production_run -/

theorem cancelLocked_writes {actor : ActorContext} {organizationId : OrganizationId}
    {run : ProductionRun} {outbox : Option DispatchOutbox} {now : Time} {plane : Plane}
    {traces : List ObservabilityEvent} (hdb : db.traces = traces) :
    Writes TraceEntry.Plain organizationId run.runId 1 traces (fun r => r.2.db)
      (cancelLocked actor organizationId run outbox now plane db) := by
  unfold cancelLocked
  apply Keeps.then (cancelOutbox_keeps hdb)
  intro db₁ h₁
  apply Keeps.then (cancelApproval_keeps h₁)
  rintro ⟨grantId, db₂⟩ h₂
  apply Keeps.then (appendAuditEvent_keeps h₂)
  rintro ⟨sequence, db₃⟩ h₃
  apply Writes.bind (n := 0) (appendObservabilityEvent_writes (by exact h₃) (.of_valid (by exact rfl)))
  intro db₄ _
  exact .ok rfl

theorem cancelProductionRun_writes {actor : ActorContext} {organizationId : OrganizationId}
    {runId : RunId} {expectedVersion : Nat} {now : Time} {current : Option ProductionRun}
    {plane : Plane} :
    Writes TraceEntry.Plain organizationId runId 1 plane.db.traces (fun r => r.2.db)
      (cancelProductionRun actor organizationId runId expectedVersion now current plane) := by
  unfold cancelProductionRun
  split
  · exact .error rfl
  apply Keeps.then (rateLimit_keeps rfl)
  rintro ⟨limited, db₁⟩ h₁
  dsimp only
  split
  · exact .ok h₁
  split
  · exact .error rfl
  split
  · exact .error rfl
  split
  · split
    · exact .error rfl
    · next run hrun =>
        rw [← (of_decide_eq_true (Table.one?_mem hrun).2).2.1]
        exact cancelLocked_writes h₁
  · split
    · split
      · exact .error rfl
      · next run hrun =>
          rw [← (of_decide_eq_true (Table.one?_mem hrun).2).2.1]
          split
          · exact .error rfl
          · exact cancelLocked_writes (by exact h₁)
    · exact .error rfl

end FlowPilot.Control
