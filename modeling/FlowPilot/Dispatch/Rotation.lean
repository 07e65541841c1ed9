import FlowPilot.Dispatch.Service
import Mathlib.Order.WithBot

/-!
# The order of the partitions

`claim_next` takes the partition with the least `last_selected_at`, nulls first.  Only
`claim_next` writes that column; every other operation leaves the order as it is.
-/

open FlowPilot.Lib Relation

namespace FlowPilot

/-- `last_selected_at`, with null below every time. -/
def SchedulerPartition.rank (p : SchedulerPartition) : WithBot Time :=
  match p.lastSelectedAt with
  | none => ⊥
  | some t => WithBot.some t

/-- The rank of an organization's partition; an organization without one ranks as a new one. -/
def Db.lastSelected (db : Db) (organizationId : OrganizationId) : WithBot Time :=
  match db.partitions.get? organizationId with
  | none => ⊥
  | some p => p.rank

/-- The partitions keep their ranks. -/
def Steady (last : OrganizationId → WithBot Time) {β : Type} (π : β → Db)
    (x : Except Failure β) : Prop :=
  ∀ b, x = .ok b → (π b).lastSelected = last

section

variable {last : OrganizationId → WithBot Time} {α β : Type} {π : α → Db} {ρ : β → Db}

theorem Steady.ok {b : β} (h : (ρ b).lastSelected = last) : Steady last ρ (.ok b) := by
  intro c hc
  rw [← Except.ok.inj hc]
  exact h

theorem Steady.error {e : Failure} : Steady last ρ (.error e : Except Failure β) := by
  intro c hc
  cases hc

theorem Steady.bind {x : Except Failure α} {f : α → Except Failure β} (hx : Steady last π x)
    (hf : ∀ a, (π a).lastSelected = last → Steady last ρ (f a)) : Steady last ρ (x >>= f) := by
  intro b hb
  obtain ⟨a, ha, hrest⟩ := ok_of_bind hb
  exact hf a (hx a ha) b hrest

end

/-! ## Writes of one partition -/

theorem lastSelected_update {db : Db} {organizationId : OrganizationId}
    {set : SchedulerPartition → SchedulerPartition}
    (hset : ∀ p, (set p).organizationId = p.organizationId)
    (hrank : ∀ p, (set p).rank = p.rank) :
    ({ db with
        partitions :=
          db.partitions.update (fun p => p.organizationId = organizationId) set hset } :
      Db).lastSelected = db.lastSelected := by
  funext org
  unfold Db.lastSelected
  dsimp only
  rw [Table.get?_update]
  cases db.partitions.get? org with
  | none => rfl
  | some p =>
    dsimp only [Option.map_some]
    split
    · exact hrank p
    · rfl

theorem ensurePartition_lastSelected [Sha256] (db : Db) (organizationId : OrganizationId) (now : Time) :
    (Control.ensurePartition db organizationId now).lastSelected = db.lastSelected := by
  unfold Control.ensurePartition
  cases hinsert : db.partitions.insert? (Control.emptyPartition organizationId now) with
  | none => rfl
  | some partitions =>
    funext org
    obtain ⟨hfresh, hrows⟩ := Table.insert?_eq_some hinsert
    unfold Db.lastSelected
    dsimp only [Option.getD_some]
    rw [hrows, Table.get?_insert]
    by_cases hkey : Keyed.key (Control.emptyPartition organizationId now) = org
    · -- a new partition ranks as the organization did without it
      rw [if_pos hkey, ← hkey, hfresh]
      rfl
    · rw [if_neg hkey]

/-! ## The worker -/


section

variable {db : Db} {last : OrganizationId → WithBot Time} (hdb : db.lastSelected = last)

include hdb

theorem insertLease_steady {values : Db.LeaseValues} : Steady last id (db.insertLease values) := by
  unfold Db.insertLease
  split
  · split
    · split
      · exact .error
      · exact .ok hdb
    · exact .error
  · exact .error

theorem updateOutbox_steady {where_ : DispatchOutbox → Bool} {set : DispatchOutbox → DispatchOutbox}
    {hset : ∀ o, (set o).outboxId = o.outboxId} :
    Steady last id (db.updateOutbox where_ set hset) := by
  unfold Db.updateOutbox
  dsimp only
  split
  · exact .ok hdb
  · exact .error

theorem updatePartition_steady {organizationId : OrganizationId}
    {set : SchedulerPartition → SchedulerPartition}
    {hset : ∀ p, (set p).organizationId = p.organizationId}
    (hrank : ∀ p, (set p).rank = p.rank := by intro _; rfl) :
    Steady last id (db.updatePartition organizationId set hset) := by
  unfold Db.updatePartition
  dsimp only
  split
  · exact .ok ((lastSelected_update hset hrank).trans hdb)
  · exact .error

namespace Worker

theorem leaseHistory_steady {outbox : DispatchOutbox} {status : LeaseStatus} {now : Time} :
    Steady last id (leaseHistory db outbox status now) := by
  unfold leaseHistory
  split
  · exact .ok hdb
  · exact insertLease_steady hdb

theorem closeLapsed_steady {outbox : DispatchOutbox} {now : Time} :
    Steady last id (closeLapsed db outbox now) := by
  unfold closeLapsed
  split
  · exact leaseHistory_steady hdb
  · exact .ok hdb

variable [Sha256]

theorem appendAudit_steady {organizationId : OrganizationId} {eventType : AuditEventType}
    {actorReference : Digest} {subjectReference : String} {payload : List (String × Json)}
    {now : Time} :
    Steady last Prod.snd
      (appendAudit db organizationId eventType actorReference subjectReference payload now) := by
  unfold appendAudit
  split
  · exact .error
  · split
    · exact .error
    · exact .ok hdb

theorem failApproval_steady {w : Repository} {run : ProductionRun} {reason : TerminalReason}
    {now : Time} : Steady last id (failApproval w db run reason now) := by
  unfold failApproval
  split
  · dsimp only
    split
    · split
      · apply Steady.bind (appendAudit_steady (by exact hdb))
        rintro ⟨sequence, mid⟩ hmid
        exact .ok hmid
      · exact .ok hdb
    · exact .ok hdb
  · exact .ok hdb

theorem startVerifying_steady {item : WorkItem} {run : ProductionRun} {successful : Bool}
    {receiptReference : String} {now : Time} :
    Steady last id (startVerifying db item run successful receiptReference now) := by
  unfold startVerifying
  split
  · apply Steady.bind (appendAudit_steady (by exact hdb))
    rintro ⟨sequence, mid⟩ hmid
    exact .ok hmid
  · exact .ok hdb

theorem completeApproval_steady {item : WorkItem} {successful : Bool} {receiptReference : String}
    {now : Time} : Steady last id (completeApproval db item successful receiptReference now) := by
  unfold completeApproval
  split
  · dsimp only
    split
    · exact .error
    · apply Steady.bind (appendAudit_steady (by exact hdb))
      rintro ⟨sequence, mid⟩ hmid
      exact .ok hmid
  · apply Steady.bind (appendAudit_steady hdb)
    rintro ⟨sequence, mid⟩ hmid
    exact .ok hmid

theorem appendTraceEvent_steady {organizationId : OrganizationId} {runId : RunId}
    {entry : TraceEntry} {now : Time} :
    Steady last id (appendTraceEvent db organizationId runId entry now) := by
  intro mid h
  rcases appendTraceEvent_ok h with ⟨traces, rfl⟩
  exact hdb

theorem appendTraceEvents_steady {organizationId : OrganizationId} {runId : RunId} {now : Time}
    (entries : List TraceEntry) :
    Steady last id (appendTraceEvents db organizationId runId now entries) := by
  induction entries generalizing db with
  | nil => exact .ok hdb
  | cons entry rest ih =>
      unfold appendTraceEvents
      apply Steady.bind (appendTraceEvent_steady hdb)
      intro mid hmid
      exact ih hmid

theorem recordStaleFence_steady {item : WorkItem} {now : Time} :
    Steady last id (recordStaleFence db item now) := by
  unfold recordStaleFence
  split
  · exact .ok hdb
  · apply Steady.bind (appendAudit_steady hdb)
    rintro ⟨sequence, mid⟩ hmid
    exact appendTraceEvent_steady hmid

theorem stale_steady {item : WorkItem} {now : Time} :
    Steady last Prod.snd (do
      let db ← recordStaleFence db item now
      .ok (false, db) : Except Failure (Bool × Db)) :=
  (recordStaleFence_steady hdb).bind fun _ hmid => .ok hmid

theorem failLocked_steady {w : Repository} {run : ProductionRun} {outbox : DispatchOutbox}
    {reason : TerminalReason} {now : Time} :
    Steady last Prod.snd (failLocked w db run outbox reason now) := by
  unfold failLocked
  apply Steady.bind (leaseHistory_steady hdb)
  intro db₁ h₁
  apply Steady.bind (updateOutbox_steady h₁)
  intro db₂ h₂
  apply Steady.bind (updatePartition_steady (by exact h₂))
  intro db₃ h₃
  apply Steady.bind (appendAudit_steady h₃)
  rintro ⟨sequence, db₄⟩ h₄
  apply Steady.bind (appendTraceEvent_steady (by exact h₄))
  intro db₅ h₅
  apply Steady.bind (failApproval_steady h₅)
  intro db₆ h₆
  exact .ok h₆

theorem expireQueued_steady {w : Repository} {run : ProductionRun} {outbox : DispatchOutbox}
    {organizationId : OrganizationId} {now : Time} :
    Steady last Prod.snd (expireQueued w db run outbox organizationId now) := by
  unfold expireQueued
  apply Steady.bind (leaseHistory_steady hdb)
  intro db₁ h₁
  apply Steady.bind (updateOutbox_steady h₁)
  intro db₂ h₂
  apply Steady.bind (updatePartition_steady (by exact h₂))
  intro db₃ h₃
  apply Steady.bind (appendAudit_steady h₃)
  rintro ⟨sequence, db₄⟩ h₄
  apply Steady.bind (appendTraceEvent_steady (by exact h₄))
  intro db₅ h₅
  exact .ok h₅

theorem markStarted_steady {w : Repository} {item : WorkItem} {now : Time} :
    Steady last Prod.snd (markStarted w item now db) := by
  unfold markStarted
  dsimp only
  split
  · split
    · exact (failLocked_steady hdb).bind fun _ hmid => .ok hmid
    · apply Steady.bind (updateOutbox_steady hdb)
      intro db₁ h₁
      apply Steady.bind (appendAudit_steady (by exact h₁))
      rintro ⟨sequence, db₂⟩ h₂
      apply Steady.bind (appendTraceEvent_steady (by exact h₂))
      intro db₃ h₃
      apply Steady.bind (appendTraceEvent_steady h₃)
      intro db₄ h₄
      exact .ok h₄
  · exact stale_steady hdb

theorem heartbeat_steady {item : WorkItem} {now : Time} :
    Steady last Prod.snd (heartbeat item now db) := by
  unfold heartbeat
  dsimp only
  split
  · exact stale_steady hdb
  · apply Steady.bind (updateOutbox_steady hdb)
    intro db₁ h₁
    apply Steady.bind (appendAudit_steady (by exact h₁))
    rintro ⟨sequence, db₂⟩ h₂
    apply Steady.bind (appendTraceEvent_steady (by exact h₂))
    intro db₃ h₃
    exact .ok h₃

theorem recordDeduplicated_steady {item : WorkItem} {now : Time} :
    Steady last Prod.snd (recordDeduplicated item now db) := by
  unfold recordDeduplicated
  dsimp only
  split
  · exact stale_steady hdb
  · apply Steady.bind (appendAudit_steady hdb)
    rintro ⟨sequence, db₁⟩ h₁
    apply Steady.bind (appendTraceEvent_steady h₁)
    intro db₂ h₂
    exact .ok h₂

theorem fail_steady {w : Repository} {item : WorkItem} {reason : TerminalReason} {now : Time} :
    Steady last Prod.snd (fail w item reason now db) := by
  unfold fail
  dsimp only
  split
  · exact failLocked_steady hdb
  · exact stale_steady hdb

theorem release_steady {item : WorkItem} {now : Time} :
    Steady last Prod.snd (release item now db) := by
  unfold release
  split
  · exact stale_steady hdb
  · apply Steady.bind (leaseHistory_steady hdb)
    intro db₁ h₁
    apply Steady.bind (updateOutbox_steady h₁)
    intro db₂ h₂
    apply Steady.bind (appendAudit_steady (by exact h₂))
    rintro ⟨sequence, db₃⟩ h₃
    apply Steady.bind (appendTraceEvent_steady (by exact h₃))
    intro db₄ h₄
    exact .ok h₄

theorem completeLocked_steady {item : WorkItem} {run : ProductionRun} {outbox : DispatchOutbox}
    {outcome : TemporalOutcome} {now : Time} :
    Steady last Prod.snd (completeLocked db item run outbox outcome now) := by
  unfold completeLocked
  apply Steady.bind (startVerifying_steady hdb)
  intro db₁ h₁
  apply Steady.bind (leaseHistory_steady h₁)
  intro db₂ h₂
  apply Steady.bind (updateOutbox_steady h₂)
  intro db₃ h₃
  apply Steady.bind (updatePartition_steady (by exact h₃))
  intro db₄ h₄
  apply Steady.bind (appendAudit_steady h₄)
  rintro ⟨sequence, db₅⟩ h₅
  apply Steady.bind (appendTraceEvents_steady (by exact h₅) _)
  intro db₆ h₆
  apply Steady.bind (completeApproval_steady h₆)
  intro db₇ h₇
  exact .ok h₇

theorem complete_steady {w : Repository} {item : WorkItem} {outcome : TemporalOutcome}
    {now : Time} : Steady last Prod.snd (complete w item outcome now db) := by
  unfold complete
  dsimp only
  split
  · split
    · exact failLocked_steady hdb
    · exact completeLocked_steady hdb
  · exact stale_steady hdb

end Worker

end

/-! ## The Control API -/

namespace Control


section

variable {db : Db} {last : OrganizationId → WithBot Time} (hdb : db.lastSelected = last)

include hdb

theorem insertRun_steady {run : ProductionRun} : Steady last id (db.insertRun run) := by
  unfold Db.insertRun
  split
  · exact .error
  · split
    · exact .error
    · exact .ok hdb

theorem insertOutbox_steady {outbox : DispatchOutbox} : Steady last id (db.insertOutbox outbox) := by
  unfold Db.insertOutbox
  split
  · exact .error
  · split
    · exact .error
    · split
      · exact .error
      · exact .ok hdb

theorem insertRequest_steady {request : ApprovalRequest} :
    Steady last id (db.insertRequest request) := by
  unfold Db.insertRequest
  split
  · exact .error
  · exact .ok hdb

theorem insertIdempotency_steady {record : IdempotencyRecord} :
    Steady last id (db.insertIdempotency record) := by
  unfold Db.insertIdempotency
  split
  · exact .error
  · exact .ok hdb

theorem addReady_steady {organizationId : OrganizationId} {now : Time} :
    Steady last id (addReady db organizationId now) := by
  unfold addReady
  exact updatePartition_steady hdb

theorem ensureBucket_steady {organizationId : OrganizationId} {bucketKeyHash : Digest}
    {scopeKind : ScopeKind} {routeClass : RouteClass} {burst : Nat} {now : Time} :
    Steady last Prod.snd
      (ensureBucket db organizationId bucketKeyHash scopeKind routeClass burst now) := by
  unfold ensureBucket
  dsimp only
  split
  · exact .error
  · exact .ok hdb

variable [Sha256]

theorem appendAuditEvent_steady {organizationId : OrganizationId} {eventType : AuditEventType}
    {actorReference : Digest} {subjectReference : String} {payload : List (String × Json)}
    {now : Time} :
    Steady last Prod.snd (appendAuditEvent db organizationId eventType actorReference
      subjectReference payload now) := by
  unfold appendAuditEvent
  split
  · exact .error
  · have hclosed : Steady last (fun _ => db) (closedPayload payload) := by
      unfold closedPayload
      split
      · split
        · exact .error
        · exact .ok hdb
      · exact .error
    apply Steady.bind hclosed
    intro closed _
    split
    · exact .error
    · split
      · exact .error
      · exact .ok hdb

theorem consumeRateLimit_steady {actor : ActorContext} {routeClass : RouteClass} {now : Time} :
    Steady last Prod.snd (consumeRateLimit db actor routeClass now) := by
  unfold consumeRateLimit
  apply Steady.bind (ensureBucket_steady hdb)
  rintro ⟨actorBucket, db₁⟩ h₁
  apply Steady.bind (ensureBucket_steady h₁)
  rintro ⟨organizationBucket, db₂⟩ h₂
  dsimp only
  split
  · exact .ok h₂
  · exact .ok h₂

theorem rateLimit_steady {actor : ActorContext} {routeClass : RouteClass}
    {subjectReference : String} {now : Time} :
    Steady last Prod.snd (consumeRateLimitOrAudit db actor routeClass subjectReference now) := by
  unfold consumeRateLimitOrAudit
  apply Steady.bind (consumeRateLimit_steady hdb)
  rintro ⟨limited, db₁⟩ h₁
  dsimp only
  split
  · exact .ok h₁
  · apply Steady.bind (appendAuditEvent_steady h₁)
    rintro ⟨sequence, db₂⟩ h₂
    exact .ok h₂

omit [Sha256] in
theorem cancelOutbox_steady {organizationId : OrganizationId} {outbox : Option DispatchOutbox}
    {now : Time} : Steady last id (cancelOutbox organizationId outbox now db) := by
  unfold cancelOutbox
  split
  · exact .ok hdb
  · apply Steady.bind (updateOutbox_steady hdb)
    intro db₁ h₁
    exact updatePartition_steady h₁

theorem cancelRequest_steady {actor : ActorContext} {organizationId : OrganizationId}
    {requestId : RequestId} {now : Time} :
    Steady last id (cancelRequest actor organizationId requestId now db) := by
  unfold cancelRequest
  split
  · exact .ok hdb
  · split
    · apply Steady.bind (appendAuditEvent_steady hdb)
      rintro ⟨sequence, db₁⟩ h₁
      exact .ok h₁
    · exact .ok hdb

theorem cancelGrant_steady {actor : ActorContext} {organizationId : OrganizationId}
    {requestId : RequestId} {now : Time} :
    Steady last Prod.snd (cancelGrant actor organizationId requestId now db) := by
  unfold cancelGrant
  split
  · exact .ok hdb
  · split
    · dsimp only
      split
      · apply Steady.bind (appendAuditEvent_steady (by exact hdb))
        rintro ⟨sequence, db₁⟩ h₁
        exact .ok h₁
      · exact .ok hdb
    · exact .ok hdb

theorem cancelApproval_steady {actor : ActorContext} {organizationId : OrganizationId}
    {requestId : Option RequestId} {now : Time} :
    Steady last Prod.snd (cancelApproval actor organizationId requestId now db) := by
  unfold cancelApproval
  split
  · exact .ok hdb
  · apply Steady.bind (cancelRequest_steady hdb)
    intro db₁ h₁
    exact cancelGrant_steady h₁

theorem admitRequest_steady {a : Admission} : Steady last Prod.snd (admitRequest a db) := by
  unfold admitRequest
  split
  · apply Steady.bind (appendAuditEvent_steady hdb)
    rintro ⟨sequence, db₁⟩ h₁
    apply Steady.bind (insertRequest_steady h₁)
    intro db₂ h₂
    exact .ok h₂
  · exact .ok hdb

omit [Sha256] in
theorem admitOutbox_steady {a : Admission} {run : ProductionRun} :
    Steady last Prod.snd (admitOutbox a run db) := by
  unfold admitOutbox
  split
  · exact .ok hdb
  · apply Steady.bind (insertOutbox_steady hdb)
    intro db₁ h₁
    apply Steady.bind (addReady_steady h₁)
    intro db₂ h₂
    exact .ok h₂

theorem appendObservabilityEvent_steady {organizationId : OrganizationId} {runId : RunId}
    {entry : TraceEntry} {now : Time} :
    Steady last id (appendObservabilityEvent db organizationId runId entry now) := by
  intro mid h
  rcases appendObservabilityEvent_ok h with ⟨traces, rfl⟩
  exact hdb

theorem admitInserts_steady {a : Admission} :
    Steady last Prod.snd (admitInserts a db) := by
  unfold admitInserts
  apply Steady.bind (appendAuditEvent_steady hdb)
  rintro ⟨_, db₁⟩ h₁
  apply Steady.bind (admitRequest_steady h₁)
  rintro ⟨requestId, db₂⟩ h₂
  apply Steady.bind (appendAuditEvent_steady h₂)
  rintro ⟨sequence, db₃⟩ h₃
  apply Steady.bind (insertRun_steady h₃)
  intro db₄ h₄
  apply Steady.bind (insertIdempotency_steady h₄)
  intro db₅ h₅
  apply Steady.bind (admitOutbox_steady h₅)
  rintro ⟨outbox, db₆⟩ h₆
  apply Steady.bind (appendObservabilityEvent_steady h₆)
  intro db₇ h₇
  split
  · exact .ok h₇
  · apply Steady.bind (appendObservabilityEvent_steady h₇)
    intro db₈ h₈
    exact .ok h₈

theorem queueClaimedRun_steady {actor : ActorContext} {organizationId : OrganizationId}
    {runId : RunId} {now : Time} {request : ApprovalRequest}
    {grant : ApprovalGrant} {claim : ExecutionClaim} :
    Steady last id
      (queueClaimedRun actor organizationId runId now request grant claim db) := by
  unfold queueClaimedRun
  split
  · exact .error
  · apply Steady.bind (appendAuditEvent_steady hdb)
    rintro ⟨sequence, db₁⟩ h₁
    apply Steady.bind (insertOutbox_steady (by exact h₁))
    intro db₂ h₂
    apply Steady.bind (addReady_steady h₂)
    intro db₃ h₃
    apply Steady.bind (appendObservabilityEvent_steady h₃)
    intro db₄ h₄
    exact appendObservabilityEvent_steady h₄

theorem commitClaim_steady {actor : ActorContext} {organizationId : OrganizationId}
    {runId : RunId} {now : Time} {request : ApprovalRequest}
    {grant : ApprovalGrant} :
    Steady last Prod.snd
      (commitClaim actor request grant now
        (some (queueClaimedRun actor organizationId runId now)) db) := by
  unfold commitClaim
  dsimp only
  split
  · exact .error
  · apply Steady.bind (appendAuditEvent_steady (by exact hdb))
    rintro ⟨sequence, db₁⟩ h₁
    apply Steady.bind (appendAuditEvent_steady h₁)
    rintro ⟨_, db₂⟩ h₂
    apply Steady.bind (queueClaimedRun_steady (by exact h₂))
    intro db₃ h₃
    exact .ok h₃

theorem claimGrant_steady {actor : ActorContext} {organizationId : OrganizationId}
    {requestId : RequestId} {runId : RunId} {now : Time}
    {rows : ClaimRows} {checks : Except Failure Unit} {plane : Plane}
    (hplane : plane.db.lastSelected = last) :
    Steady last (fun r => r.2.db)
      (claimGrant actor organizationId requestId now
        (some (queueClaimedRun actor organizationId runId now)) rows checks db plane) := by
  unfold claimGrant
  split
  · exact .error
  · split
    · split
      · apply Steady.bind (appendAuditEvent_steady hplane)
        rintro ⟨_, db₁⟩ h₁
        exact .ok h₁
      · split
        · next claim db₁ hcommit =>
            obtain ⟨_, _, hcommit⟩ := ok_of_bind hcommit
            have h₁ := commitClaim_steady hplane _ hcommit
            exact .ok h₁
        · split
          · dsimp only
            split
            · next haudit =>
                have h₁ := appendAuditEvent_steady hdb _ haudit
                exact .ok h₁
            · exact .ok hdb
          · exact .error
    · apply Steady.bind (appendAuditEvent_steady hplane)
      rintro ⟨_, db₁⟩ h₁
      exact .ok h₁

theorem cancelLocked_steady {actor : ActorContext} {organizationId : OrganizationId}
    {run : ProductionRun} {outbox : Option DispatchOutbox} {now : Time} {plane : Plane} :
    Steady last (fun r => r.2.db)
      (cancelLocked actor organizationId run outbox now plane db) := by
  unfold cancelLocked
  apply Steady.bind (cancelOutbox_steady hdb)
  intro db₁ h₁
  apply Steady.bind (cancelApproval_steady h₁)
  rintro ⟨grantId, db₂⟩ h₂
  apply Steady.bind (appendAuditEvent_steady h₂)
  rintro ⟨sequence, db₃⟩ h₃
  apply Steady.bind (appendObservabilityEvent_steady (by exact h₃))
  intro db₄ h₄
  exact .ok h₄

end

variable [Sha256] {plane : Plane} {last : OrganizationId → WithBot Time}
  (hplane : plane.db.lastSelected = last)

include hplane

theorem admitLocked_steady {a : Admission} {visible : List OrganizationId} :
    Steady last (fun r => r.2.db) (admitLocked a visible plane) := by
  unfold admitLocked
  split
  · apply Steady.bind (appendAuditEvent_steady hplane)
    rintro ⟨_, db₁⟩ h₁
    exact .ok h₁
  · apply Steady.bind (rateLimit_steady hplane)
    rintro ⟨limited, db₁⟩ h₁
    dsimp only
    split
    · exact .ok h₁
    · split
      · apply Steady.bind (admitInserts_steady h₁)
        rintro ⟨run, db₂⟩ h₂
        exact .ok h₂
      · have hensured := (ensurePartition_lastSelected db₁ a.organizationId a.now).trans h₁
        split
        · apply Steady.bind (admitInserts_steady hensured)
          rintro ⟨run, db₂⟩ h₂
          exact .ok h₂
        · apply Steady.bind (appendAuditEvent_steady hensured)
          rintro ⟨_, db₂⟩ h₂
          apply Steady.bind (appendAuditEvent_steady h₂)
          rintro ⟨_, db₃⟩ h₃
          exact .ok h₃

theorem claimProductionRun_steady {actor : ActorContext} {organizationId : OrganizationId}
    {runId : RunId} {expectedVersion : Nat} {now : Time} {reads : RunClaimReads} :
    Steady last (fun r => r.2.db)
      (claimProductionRun actor organizationId runId expectedVersion now reads plane) := by
  unfold claimProductionRun
  split
  · exact .error
  apply Steady.bind (rateLimit_steady hplane)
  rintro ⟨limited, db₁⟩ h₁
  dsimp only
  split
  · exact .ok h₁
  split
  · exact .error
  split
  · exact .error
  split
  · exact .error
  have hensured := (ensurePartition_lastSelected db₁ organizationId now).trans h₁
  split
  · apply Steady.bind (appendAuditEvent_steady hensured)
    rintro ⟨_, db₂⟩ h₂
    exact .ok h₂
  · apply Steady.bind (claimGrant_steady hplane hensured)
    rintro ⟨claimed, after⟩ hafter
    dsimp only
    split
    · exact .ok hafter
    · split
      · exact .ok hafter
      · exact .ok hafter

theorem cancelProductionRun_steady {actor : ActorContext} {organizationId : OrganizationId}
    {runId : RunId} {expectedVersion : Nat} {now : Time} {current : Option ProductionRun} :
    Steady last (fun r => r.2.db)
      (cancelProductionRun actor organizationId runId expectedVersion now current plane) := by
  unfold cancelProductionRun
  split
  · exact .error
  apply Steady.bind (rateLimit_steady hplane)
  rintro ⟨limited, db₁⟩ h₁
  dsimp only
  split
  · exact .ok h₁
  split
  · exact .error
  split
  · exact .error
  split
  · split
    · exact .error
    · exact cancelLocked_steady h₁
  · split
    · split
      · exact .error
      · split
        · exact .error
        · refine cancelLocked_steady ?_
          exact (ensurePartition_lastSelected db₁ organizationId now).trans h₁
    · exact .error

end Control

end FlowPilot
