import FlowPilot.Trace.Writes
import FlowPilot.Worker.Complete

/-!
# The trace events of the worker's operations

Every operation but `complete` writes entries that report no usage and can be read back.
-/

open FlowPilot.Lib Relation

namespace FlowPilot

open Control (matchesSha256_hex)

/-! ## Attributes -/

theorem legible_digest {key : String} (hkey : key ∈ ["workflow_hash", "worker_reference",
    "checkpoint_hash"]) (d : Digest) : LegibleField (key, .digest d) := by
  have hmatches := matchesSha256_hex d
  rcases List.mem_cons.mp hkey with rfl | hkey
  · exact .inl hmatches
  · rcases List.mem_cons.mp hkey with rfl | hkey
    · exact .inl hmatches
    · rw [List.mem_singleton.mp hkey]
      exact .inl hmatches

theorem legible_natural {key : String} (hkey : key = "fencing_token" ∨ key = "lease_version")
    (n : Nat) : LegibleField (key, .num n) := by
  rcases hkey with rfl | rfl
  · exact .inl (decide_eq_true (Int.natCast_nonneg n))
  · exact .inl (decide_eq_true (Int.natCast_nonneg n))

theorem legible_positive {key : String} (hkey : key = "audit_sequence" ∨ key = "version")
    {n : Nat} (h : 1 ≤ n) : LegibleField (key, .num n) := by
  rcases hkey with rfl | rfl
  · exact .inl (decide_eq_true (Int.ofNat_le.mpr h))
  · exact .inl (decide_eq_true (Int.ofNat_le.mpr h))

theorem legible_attempts {n : Nat} (h : n ≤ 3) : LegibleField ("attempt_count", .num n) :=
  .inl (decide_eq_true ⟨Int.natCast_nonneg n, Int.ofNat_le.mpr h⟩)

theorem legible_outbox (i : OutboxId) : LegibleField ("outbox_id", .id i) := .inr ⟨i, rfl⟩

theorem legible_runStatus (status : RunStatus) :
    LegibleField ("run_status", .str status.value) := by
  cases status <;> exact .inl rfl

theorem legible_outboxStatus (status : OutboxStatus) :
    LegibleField ("outbox_status", .str status.value) := by
  cases status <;> exact .inl rfl

/-! ## Parts that write no trace event -/

section

variable {db : Db} {traces : List ObservabilityEvent} (hdb : db.traces = traces)

include hdb

theorem insertLease_keeps {values : Db.LeaseValues} : Keeps traces id (db.insertLease values) := by
  unfold Db.insertLease
  split
  · split
    · split
      · exact .error rfl
      · exact .ok hdb
    · exact .error rfl
  · exact .error rfl

theorem updateOutbox_keeps {where_ : DispatchOutbox → Bool} {set : DispatchOutbox → DispatchOutbox}
    {hset : ∀ o, (set o).outboxId = o.outboxId} :
    Keeps traces id (db.updateOutbox where_ set hset) := by
  unfold Db.updateOutbox
  dsimp only
  split
  · exact .ok hdb
  · exact .error rfl

theorem updatePartition_keeps {organizationId : OrganizationId}
    {set : SchedulerPartition → SchedulerPartition}
    {hset : ∀ p, (set p).organizationId = p.organizationId} :
    Keeps traces id (db.updatePartition organizationId set hset) := by
  unfold Db.updatePartition
  dsimp only
  split
  · exact .ok hdb
  · exact .error rfl

namespace Worker

theorem leaseHistory_keeps {outbox : DispatchOutbox} {status : LeaseStatus} {now : Time} :
    Keeps traces id (leaseHistory db outbox status now) := by
  unfold leaseHistory
  split
  · exact .ok hdb
  · exact insertLease_keeps hdb

theorem closeLapsed_keeps {outbox : DispatchOutbox} {now : Time} :
    Keeps traces id (closeLapsed db outbox now) := by
  unfold closeLapsed
  split
  · exact leaseHistory_keeps hdb
  · exact .ok hdb

variable [Sha256]

theorem appendAudit_keeps {organizationId : OrganizationId} {eventType : AuditEventType}
    {actorReference : Digest} {subjectReference : String} {payload : List (String × Json)}
    {now : Time} :
    Keeps traces Prod.snd
      (appendAudit db organizationId eventType actorReference subjectReference payload now) := by
  unfold appendAudit
  split
  · exact .error (by decide)
  · split
    · exact .error (by decide)
    · exact .ok hdb

omit hdb in
theorem appendAudit_positive {organizationId : OrganizationId} {eventType : AuditEventType}
    {actorReference : Digest} {subjectReference : String} {payload : List (String × Json)}
    {now : Time} {sequence : Nat} {after : Db}
    (h : appendAudit db organizationId eventType actorReference subjectReference payload now =
      .ok (sequence, after)) : 1 ≤ sequence := by
  unfold appendAudit at h
  split at h
  · cases h
  · split at h
    · cases h
    · cases h
      exact Nat.le_add_left 1 _

theorem failApproval_keeps {w : Repository} {run : ProductionRun} {reason : TerminalReason}
    {now : Time} : Keeps traces id (failApproval w db run reason now) := by
  unfold failApproval
  split
  · dsimp only
    split
    · split
      · apply Keeps.bind (appendAudit_keeps (by exact hdb))
        rintro ⟨sequence, mid⟩ hmid
        exact .ok hmid
      · exact .ok hdb
    · exact .ok hdb
  · exact .ok hdb

theorem startVerifying_keeps {item : WorkItem} {run : ProductionRun} {successful : Bool}
    {receiptReference : String} {now : Time} :
    Keeps traces id (startVerifying db item run successful receiptReference now) := by
  unfold startVerifying
  split
  · apply Keeps.bind (appendAudit_keeps (by exact hdb))
    rintro ⟨sequence, mid⟩ hmid
    exact .ok hmid
  · exact .ok hdb

theorem completeApproval_keeps {item : WorkItem} {successful : Bool} {receiptReference : String}
    {now : Time} : Keeps traces id (completeApproval db item successful receiptReference now) := by
  unfold completeApproval
  split
  · dsimp only
    split
    · exact .error (by decide)
    · apply Keeps.bind (appendAudit_keeps (by exact hdb))
      rintro ⟨sequence, mid⟩ hmid
      exact .ok hmid
  · apply Keeps.bind (appendAudit_keeps hdb)
    rintro ⟨sequence, mid⟩ hmid
    exact .ok hmid

end Worker

end

/-! ## Operations -/

namespace Worker

variable [Sha256] {db : Db}

/-- The row of the item's lease belongs to the item's run. -/
def OwnRow (db : Db) (item : WorkItem) : Prop :=
  ∀ o ∈ db.outbox.rows, o.outboxId = item.outboxId → o.runId = item.runId

theorem recordStaleFence_writes {item : WorkItem} {now : Time} (hrow : OwnRow db item) :
    Writes TraceEntry.Plain item.organizationId item.runId 1 db.traces id
      (recordStaleFence db item now) := by
  unfold recordStaleFence
  split
  · exact .ok rfl
  · next current hcurrent =>
      have hrunId : current.runId = item.runId := by
        obtain ⟨hmem, hp⟩ := Table.one?_mem hcurrent
        exact hrow current hmem (of_decide_eq_true hp).2
      rw [hrunId]
      apply Keeps.then (appendAudit_keeps rfl)
      rintro ⟨sequence, mid⟩ hmid
      exact appendTraceEvent_writes hmid ⟨rfl,
        .cons (legible_outbox _) <| .cons (legible_outboxStatus _) <|
        .cons (legible_natural (.inl rfl) _) <| .cons (legible_digest (by decide) _) <|
        .cons (.inl rfl) <| .nil⟩

theorem stale_writes {item : WorkItem} {now : Time} (hrow : OwnRow db item) :
    Writes TraceEntry.Plain item.organizationId item.runId 1 db.traces Prod.snd (do
      let db ← recordStaleFence db item now
      .ok (false, db) : Except Failure (Bool × Db)) :=
  (recordStaleFence_writes hrow).bind (n := 0) fun _ _ => .ok rfl

theorem failLocked_writes {w : Repository} {run : ProductionRun} {outbox : DispatchOutbox}
    {reason : TerminalReason} {now : Time} (hattempts : outbox.attemptCount ≤ 3) :
    Writes TraceEntry.Plain run.organizationId run.runId 1 db.traces Prod.snd
      (failLocked w db run outbox reason now) := by
  unfold failLocked
  apply Keeps.then (leaseHistory_keeps rfl)
  intro db₁ h₁
  apply Keeps.then (updateOutbox_keeps h₁)
  intro db₂ h₂
  apply Keeps.then (updatePartition_keeps (by exact h₂))
  intro db₃ h₃
  apply Keeps.thenOk (appendAudit_keeps h₃)
  rintro ⟨sequence, db₄⟩ haudit h₄
  dsimp only
  apply Writes.bind (n := 0) (appendTraceEvent_writes (by exact h₄) ⟨by exact rfl,
    .cons (.inl rfl) <| .cons (legible_outbox _) <| .cons (.inl rfl) <|
    .cons (legible_digest (by decide) _) <| .cons (legible_digest (by decide) _) <|
    .cons (legible_natural (.inl rfl) _) <| .cons (legible_attempts hattempts) <|
    .cons (legible_positive (.inl rfl) (appendAudit_positive haudit)) <|
    .cons (legible_positive (.inr rfl) (Nat.le_add_left 1 _)) <| .cons (.inl rfl) <| .nil⟩)
  intro db₅ _
  apply Keeps.then (failApproval_keeps rfl)
  intro db₆ h₆
  exact .ok h₆

theorem expireQueued_writes {w : Repository} {run : ProductionRun} {outbox : DispatchOutbox}
    {organizationId : OrganizationId} {now : Time} :
    Writes TraceEntry.Plain organizationId run.runId 1 db.traces Prod.snd
      (expireQueued w db run outbox organizationId now) := by
  unfold expireQueued
  apply Keeps.then (leaseHistory_keeps rfl)
  intro db₁ h₁
  apply Keeps.then (updateOutbox_keeps h₁)
  intro db₂ h₂
  apply Keeps.then (updatePartition_keeps (by exact h₂))
  intro db₃ h₃
  apply Keeps.thenOk (appendAudit_keeps h₃)
  rintro ⟨sequence, db₄⟩ haudit h₄
  dsimp only
  apply Writes.bind (n := 0) (appendTraceEvent_writes (by exact h₄) ⟨by exact rfl,
    .cons (.inl rfl) <| .cons (legible_outbox _) <| .cons (.inl rfl) <|
    .cons (legible_positive (.inl rfl) (appendAudit_positive haudit)) <|
    .cons (legible_positive (.inr rfl) (Nat.le_add_left 1 _)) <| .cons (.inl rfl) <| .nil⟩)
  intro db₅ _
  exact .ok rfl

theorem takeLease_writes {w : Repository} {run : ProductionRun} {outbox : DispatchOutbox}
    {organizationId : OrganizationId} {now : Time} (hattempts : outbox.attemptCount + 1 ≤ 3) :
    Writes TraceEntry.Plain organizationId run.runId 1 db.traces Prod.snd
      (takeLease w db run outbox organizationId now) := by
  unfold takeLease
  apply Keeps.then (closeLapsed_keeps rfl)
  intro db₁ h₁
  dsimp only
  split
  · exact .ok h₁
  · apply Keeps.then (updateOutbox_keeps h₁)
    intro db₂ h₂
    split
    · exact .error (by decide)
    · apply Keeps.then (updatePartition_keeps (by exact h₂))
      intro db₃ h₃
      apply Keeps.thenOk (appendAudit_keeps h₃)
      rintro ⟨sequence, db₄⟩ haudit h₄
      dsimp only
      apply Writes.bind (n := 0) (appendTraceEvent_writes (by exact h₄) ⟨by exact rfl,
        .cons (legible_runStatus _) <| .cons (legible_outbox _) <| .cons (.inl rfl) <|
        .cons (legible_digest (by decide) _) <| .cons (legible_digest (by decide) _) <|
        .cons (legible_natural (.inl rfl) _) <| .cons (legible_natural (.inr rfl) _) <|
        .cons (legible_attempts hattempts) <|
        .cons (legible_positive (.inl rfl) (appendAudit_positive haudit)) <|
        .cons (legible_positive (.inr rfl) (Nat.le_add_left 1 _)) <| .cons (.inl rfl) <| .nil⟩)
      intro db₅ _
      exact .ok rfl

/-- The events that `mark_started` writes. -/
def startEvents (db : Db) (item : WorkItem) (now : Time) : Nat :=
  if bindingValid db item now false then 2 else 1

/-- `claim_next` writes at most one event, for the run of the row that it selects. -/
theorem claimNext_writes {w : Repository} {locked : Locked} {now : Time}
    {organizationId : OrganizationId} {runId : RunId}
    (hattempts : ∀ o ∈ db.outbox.rows, o.attemptCount ≤ 3)
    (hselected : ∀ partition outbox, selectPartition db locked = some partition →
      selectOutbox db locked partition.organizationId now = some outbox →
      partition.organizationId = organizationId ∧ outbox.runId = runId) :
    Writes TraceEntry.Plain organizationId runId 1 db.traces Prod.snd
      (claimNext w locked now db) := by
  unfold claimNext
  split
  · exact .ok rfl
  · next partition hpartition =>
      dsimp only
      split
      · apply Keeps.then (updatePartition_keeps rfl)
        intro mid hmid
        exact .ok hmid
      · next outbox houtbox =>
          obtain ⟨rfl, rfl⟩ := hselected partition outbox hpartition houtbox
          split
          · exact .ok rfl
          · next run hrun =>
              have hrunIds := of_decide_eq_true (Table.one?_mem hrun).2
              rw [← hrunIds.1, ← hrunIds.2]
              split
              · exact expireQueued_writes
              · split
                · have hrow := (Table.firstBy?_mem houtbox).1
                  exact (failLocked_writes (hattempts _ hrow)).bind (n := 0) fun _ _ => .ok rfl
                · next hroom => exact takeLease_writes (Nat.lt_of_not_le hroom)

section

variable {w : Repository} {item : WorkItem} {now : Time} (hrow : OwnRow db item)
  (hattempts : ∀ o ∈ db.outbox.rows, o.attemptCount ≤ 3)

include hrow

include hattempts in
theorem markStarted_writes :
    Writes TraceEntry.Plain item.organizationId item.runId (startEvents db item now) db.traces
      Prod.snd (markStarted w item now db) := by
  unfold markStarted
  dsimp only
  split
  · next outbox run houtbox hrun =>
      have hrunIds := of_decide_eq_true (Table.one?_mem hrun).2
      unfold startEvents
      by_cases hvalid : bindingValid db item now false = true
      · rw [if_neg (not_not_intro hvalid), if_pos hvalid]
        apply Keeps.then (updateOutbox_keeps rfl)
        intro db₁ h₁
        apply Keeps.thenOk (appendAudit_keeps (by exact h₁))
        rintro ⟨sequence, db₂⟩ haudit h₂
        dsimp only
        apply Writes.bind (m := 1) (n := 1) (appendTraceEvent_writes (by exact h₂) ⟨by exact rfl,
          .cons (.inl rfl) <| .cons (legible_outbox _) <| .cons (.inl rfl) <|
          .cons (legible_digest (by decide) _) <| .cons (legible_digest (by decide) _) <|
          .cons (legible_natural (.inl rfl) _) <| .cons (legible_natural (.inr rfl) _) <|
          .cons (legible_positive (.inl rfl) (appendAudit_positive haudit)) <|
          .cons (legible_positive (.inr rfl) (Nat.le_add_left 1 _)) <| .cons (.inl rfl) <| .nil⟩)
        intro db₃ _
        apply Writes.bind (n := 0) (appendTraceEvent_writes rfl ⟨by exact rfl,
          .cons (.inl rfl) <| .cons (legible_digest (by decide) _) <|
          .cons (legible_digest (by decide) _) <| .cons (legible_natural (.inl rfl) _) <|
          .cons (.inl rfl) <| .nil⟩)
        intro db₄ _
        exact .ok rfl
      · rw [if_pos hvalid, if_neg hvalid, ← hrunIds.1, ← hrunIds.2.1]
        exact (failLocked_writes (hattempts _ (Table.one?_mem houtbox).1)).bind (n := 0)
          fun _ _ => .ok rfl
  · refine (stale_writes hrow).mono ?_
    unfold startEvents
    split
    · exact Nat.le_succ 1
    · exact Nat.le_refl 1

theorem heartbeat_writes :
    Writes TraceEntry.Plain item.organizationId item.runId 1 db.traces Prod.snd
      (heartbeat item now db) := by
  unfold heartbeat
  dsimp only
  split
  · exact stale_writes hrow
  · apply Keeps.then (updateOutbox_keeps rfl)
    intro db₁ h₁
    apply Keeps.then (appendAudit_keeps (by exact h₁))
    rintro ⟨sequence, db₂⟩ h₂
    apply Writes.bind (n := 0) (appendTraceEvent_writes (by exact h₂) ⟨by exact rfl,
      .cons (.inl rfl) <| .cons (legible_outbox _) <| .cons (.inl rfl) <|
      .cons (legible_digest (by decide) _) <| .cons (legible_digest (by decide) _) <|
      .cons (legible_natural (.inl rfl) _) <| .cons (legible_natural (.inr rfl) _) <|
      .cons (.inl rfl) <| .nil⟩)
    intro db₃ _
    exact .ok rfl

theorem recordDeduplicated_writes :
    Writes TraceEntry.Plain item.organizationId item.runId 1 db.traces Prod.snd
      (recordDeduplicated item now db) := by
  unfold recordDeduplicated
  dsimp only
  split
  · exact stale_writes hrow
  · apply Keeps.then (appendAudit_keeps rfl)
    rintro ⟨sequence, db₁⟩ h₁
    apply Writes.bind (n := 0) (appendTraceEvent_writes h₁ ⟨by exact rfl,
      .cons (.inl rfl) <| .cons (legible_digest (by decide) _) <|
      .cons (legible_digest (by decide) _) <| .cons (legible_natural (.inl rfl) _) <|
      .cons (.inl rfl) <| .nil⟩)
    intro db₂ _
    exact .ok rfl

include hattempts in
theorem fail_writes {reason : TerminalReason} :
    Writes TraceEntry.Plain item.organizationId item.runId 1 db.traces Prod.snd
      (fail w item reason now db) := by
  unfold fail
  dsimp only
  split
  · next outbox run houtbox hrun =>
      have hrunIds := of_decide_eq_true (Table.one?_mem hrun).2
      rw [← hrunIds.1, ← hrunIds.2.1]
      exact failLocked_writes (hattempts _ (Table.one?_mem houtbox).1)
  · exact stale_writes hrow

theorem release_writes :
    Writes TraceEntry.Plain item.organizationId item.runId 1 db.traces Prod.snd
      (release item now db) := by
  unfold release
  split
  · exact stale_writes hrow
  · apply Keeps.then (leaseHistory_keeps rfl)
    intro db₁ h₁
    apply Keeps.then (updateOutbox_keeps h₁)
    intro db₂ h₂
    apply Keeps.then (appendAudit_keeps (by exact h₂))
    rintro ⟨sequence, db₃⟩ h₃
    apply Writes.bind (n := 0) (appendTraceEvent_writes (by exact h₃) ⟨by exact rfl,
      .cons (.inl rfl) <| .cons (legible_outbox _) <| .cons (.inl rfl) <|
      .cons (legible_digest (by decide) _) <| .cons (legible_digest (by decide) _) <|
      .cons (legible_natural (.inl rfl) _) <| .cons (legible_natural (.inr rfl) _) <|
      .cons (.inl rfl) <| .nil⟩)
    intro db₄ _
    exact .ok rfl

end

/-! ## complete -/

theorem appendTraceEvents_writes {organizationId : OrganizationId} {runId : RunId} {now : Time}
    {traces : List ObservabilityEvent} (entries : List TraceEntry) (hdb : db.traces = traces) :
    Writes (fun _ => True) organizationId runId entries.length traces id
      (appendTraceEvents db organizationId runId now entries) := by
  induction entries generalizing db traces with
  | nil => exact .ok hdb
  | cons entry rest ih =>
      unfold appendTraceEvents
      rw [List.length_cons, Nat.add_comm]
      apply Writes.bind (appendTraceEvent_writes hdb trivial)
      intro mid _
      exact ih rfl

omit [Sha256] in
/-- The number of events of an outcome. -/
theorem outcomeEntries_length (item : WorkItem) (outcome : TemporalOutcome)
    (terminalStatus : RunStatus) (receiptReference : String)
    (auditSequence terminalVersion : Nat) :
    (outcomeEntries item outcome terminalStatus receiptReference auditSequence
      terminalVersion).length = outcome.result.completedStepIds.length + 8 := by
  have hsteps : ∀ common index (steps : List String),
      (stepEntries common index steps).length = steps.length := by
    intro common index steps
    induction steps generalizing index with
    | nil => rfl
    | cons step rest ih =>
        unfold stepEntries
        rw [List.length_cons, ih, List.length_cons]
  unfold outcomeEntries
  simp only [List.length_append, List.length_cons, List.length_nil, hsteps]
  omega

theorem appendOutcomeTrace_writes {item : WorkItem} {outcome : TemporalOutcome}
    {terminalStatus : RunStatus} {receiptReference : String} {auditSequence terminalVersion : Nat}
    {now : Time} {traces : List ObservabilityEvent} (hdb : db.traces = traces) :
    Writes (fun _ => True) item.organizationId item.runId
      (outcome.result.completedStepIds.length + 8) traces id
      (appendOutcomeTrace db item outcome terminalStatus receiptReference auditSequence
        terminalVersion now) := by
  unfold appendOutcomeTrace
  rw [← outcomeEntries_length item outcome terminalStatus receiptReference auditSequence
    terminalVersion]
  exact appendTraceEvents_writes _ hdb

theorem completeLocked_writes {item : WorkItem} {run : ProductionRun} {outbox : DispatchOutbox}
    {outcome : TemporalOutcome} {now : Time} :
    Writes (fun _ => True) item.organizationId item.runId
      (outcome.result.completedStepIds.length + 8) db.traces Prod.snd
      (completeLocked db item run outbox outcome now) := by
  unfold completeLocked
  dsimp only
  apply Keeps.then (startVerifying_keeps rfl)
  intro db₁ h₁
  apply Keeps.then (leaseHistory_keeps h₁)
  intro db₂ h₂
  apply Keeps.then (updateOutbox_keeps h₂)
  intro db₃ h₃
  apply Keeps.then (updatePartition_keeps (by exact h₃))
  intro db₄ h₄
  apply Keeps.then (appendAudit_keeps h₄)
  rintro ⟨sequence, db₅⟩ h₅
  apply Writes.bind (n := 0) (appendOutcomeTrace_writes (by exact h₅))
  intro db₆ _
  apply Keeps.then (completeApproval_keeps rfl)
  intro db₇ h₇
  exact .ok h₇

/-- The events that `complete` writes. -/
def completeEvents (db : Db) (item : WorkItem) (outcome : TemporalOutcome) (now : Time) : Nat :=
  if bindingValid db item now false then outcome.result.completedStepIds.length + 8 else 1

theorem complete_writes {w : Repository} {item : WorkItem} {outcome : TemporalOutcome}
    {now : Time} (hrow : OwnRow db item)
    (hattempts : ∀ o ∈ db.outbox.rows, o.attemptCount ≤ 3) :
    Writes (fun _ => True) item.organizationId item.runId (completeEvents db item outcome now)
      db.traces Prod.snd (complete w item outcome now db) := by
  unfold complete
  dsimp only
  split
  · next outbox run houtbox hrun =>
      have hrunIds := of_decide_eq_true (Table.one?_mem hrun).2
      unfold completeEvents
      by_cases hvalid : bindingValid db item now false = true
      · rw [if_neg (not_not_intro hvalid), if_pos hvalid]
        exact completeLocked_writes
      · rw [if_pos hvalid, if_neg hvalid, ← hrunIds.1, ← hrunIds.2.1]
        exact (failLocked_writes (hattempts _ (Table.one?_mem houtbox).1)).weaken fun _ _ => trivial
  · refine ((stale_writes hrow).weaken fun _ _ => trivial).mono ?_
    unfold completeEvents
    split
    · exact Nat.le_add_left 1 _
    · exact Nat.le_refl 1

end Worker

end FlowPilot
