import FlowPilot.Dispatch.Fencing
import FlowPilot.Trace.Bound
import Mathlib.Tactic.MkIffOfInductiveProp

/-!
# A full trace

A worker that has lost its lease keeps sending heartbeats, each of which writes an event.  When the
trace is full, the worker that holds the lease cannot end the run.
-/

open FlowPilot.Lib Relation

namespace FlowPilot

open Worker (WorkItem Repository)

theorem traceCount_own (traces : List ObservabilityEvent) (event : ObservabilityEvent) :
    traceCount (traces ++ [event]) event.organizationId event.runId =
      max (traceCount traces event.organizationId event.runId) event.eventSequence := by
  unfold traceCount
  rw [tracesOf_append, if_pos ⟨rfl, rfl⟩]
  unfold lastEventSequence
  rw [List.map_append, List.map_singleton, foldr_max_append]

/-- The log takes events of the organization. -/
structure Audited (db : Db) (organizationId : OrganizationId) : Prop where
  organization : (db.directory.organizations.get? organizationId).isSome
  head : (db.audit.heads.get? organizationId).isSome

namespace Worker

section

variable [Sha256] {db : Db} {organizationId : OrganizationId} {runId : RunId}

theorem appendAudit_audited (h : Audited db organizationId) (eventType : AuditEventType)
    (actorReference : Digest) (subjectReference : String) (payload : List (String × Json))
    (now : Time) :
    ∃ sequence audit, appendAudit db organizationId eventType actorReference subjectReference
        payload now = .ok (sequence, { db with audit := audit }) ∧
      (audit.heads.get? organizationId).isSome := by
  unfold appendAudit
  rw [Option.isNone_eq_false_iff.mpr h.organization, if_neg Bool.false_ne_true]
  split
  · next hhead =>
      have hsome := h.head
      rw [hhead] at hsome
      cases hsome
  · refine ⟨_, _, rfl, ?_⟩
    unfold AuditLog.append
    rw [Table.isSome_get?_update]
    exact h.head

theorem appendAudit_accepted (h : Audited db organizationId) {eventType : AuditEventType}
    {actorReference : Digest} {subjectReference : String} {payload : List (String × Json)}
    {now : Time} (e : Failure) :
    appendAudit db organizationId eventType actorReference subjectReference payload now ≠
      .error e := by
  obtain ⟨sequence, audit, happend, _⟩ := appendAudit_audited h eventType actorReference
    subjectReference payload now
  rw [happend]
  intro h
  cases h

theorem appendTraceEvent_room (db : Db) (entry : TraceEntry) {attributes : Json} (now : Time)
    (hrun : (db.runs.one? fun r => r.organizationId = organizationId ∧ r.runId = runId).isSome)
    (hchecked : safeTraceAttributes entry.attributes = .ok attributes)
    (hroom : traceCount db.traces organizationId runId + 1 ≤ 256) :
    ∃ traces, appendTraceEvent db organizationId runId entry now =
        .ok { db with traces := traces } ∧
      traceCount traces organizationId runId = traceCount db.traces organizationId runId + 1 := by
  unfold appendTraceEvent
  rw [Option.isNone_eq_false_iff.mpr hrun, if_neg Bool.false_ne_true]
  dsimp only
  have hbound : ¬ lastEventSequence (runTraces db organizationId runId) + 1 > 256 :=
    Nat.not_lt.mpr hroom
  rw [if_neg hbound, hchecked]
  refine ⟨_, rfl, ?_⟩
  have hcount := traceCount_own db.traces (traceRecord (runTraces db organizationId runId)
    ⟨db.traces.length⟩ organizationId runId entry attributes now)
  refine hcount.trans ?_
  show max (traceCount db.traces _ _) (traceCount db.traces _ _ + 1) = _
  exact Nat.max_eq_right (Nat.le_succ _)

theorem appendTraceEvent_full (entry : TraceEntry) (now : Time)
    (hrun : (db.runs.one? fun r => r.organizationId = organizationId ∧ r.runId = runId).isSome)
    (hfull : 256 ≤ traceCount db.traces organizationId runId) :
    appendTraceEvent db organizationId runId entry now = .error (.runtimeError traceBoundText) := by
  unfold appendTraceEvent
  rw [Option.isNone_eq_false_iff.mpr hrun, if_neg Bool.false_ne_true]
  exact if_pos (Nat.lt_succ_of_le hfull)

/-! ## Heartbeats of a lost lease -/

/-- A heartbeat under another token than the row's is recorded as stale. -/
theorem heartbeat_stale {item : WorkItem} (now : Time)
    (hstale : ∀ o ∈ db.outbox.rows, o.fencingToken ≠ item.fencingToken) :
    heartbeat item now db = (do
      let db ← recordStaleFence db item now
      .ok (false, db)) := by
  unfold heartbeat
  dsimp only
  rw [if_pos]
  unfold Table.count
  rw [List.countP_eq_zero.mpr]
  · exact Nat.zero_ne_one
  · intro o ho hheld
    exact hstale o ho (of_decide_eq_true hheld).2.2.2.2.1

/-- The lease of the item is lost, and the row that it was taken for can be reported. -/
@[mk_iff lapsed_iff]
structure Lapsed (db : Db) (item : WorkItem) : Prop where
  organization : (db.directory.organizations.get? item.organizationId).isSome
  stale : ∀ o ∈ db.outbox.rows, o.fencingToken ≠ item.fencingToken
  run : (db.runs.one? fun r =>
    r.organizationId = item.organizationId ∧ r.runId = item.runId).isSome
  reported : ((db.outbox.one? fun o =>
      o.organizationId = item.organizationId ∧ o.outboxId = item.outboxId).any fun current =>
    decide (current.runId = item.runId) && (safeTraceAttributes
      [("outbox_id", .id current.outboxId),
        ("outbox_status", .str current.status.value),
        ("fencing_token", .num current.fencingToken),
        ("worker_reference", .digest item.workerOwnerHash),
        ("sensitive_fields_present", .bool false)]).isOk) = true

/-- While there is room, the heartbeat writes one event and to no other table. -/
theorem heartbeat_room {item : WorkItem} (now : Time) (hlapsed : Lapsed db item)
    (hhead : (db.audit.heads.get? item.organizationId).isSome)
    (hroom : traceCount db.traces item.organizationId item.runId + 1 ≤ 256) :
    ∃ audit traces, heartbeat item now db =
        .ok (false, { db with audit := audit, traces := traces }) ∧
      (audit.heads.get? item.organizationId).isSome ∧
      traceCount traces item.organizationId item.runId =
        traceCount db.traces item.organizationId item.runId + 1 := by
  obtain ⟨current, hcurrent, hreported⟩ := (Option.any_eq_true _ _).mp hlapsed.reported
  obtain ⟨hrunId, hok⟩ := Bool.and_eq_true_iff.mp hreported
  obtain ⟨attributes, hchecked⟩ := ok_of_isOk hok
  rw [heartbeat_stale now hlapsed.stale]
  unfold recordStaleFence
  rw [hcurrent]
  dsimp only
  rw [of_decide_eq_true hrunId]
  obtain ⟨sequence, audit, happend, hhead⟩ := appendAudit_audited ⟨hlapsed.organization, hhead⟩
    .staleFenceRejected item.workerOwnerHash item.runId.text
    [("schema_version", .str "w12-audit-payload/1.0"),
      ("run_id", .id item.runId),
      ("outbox_id", .id current.outboxId),
      ("outbox_status", .str current.status.value),
      ("fencing_token", .num current.fencingToken),
      ("reason", .str "stale_fence")] now
  rw [happend]
  let reported : TraceEntry :=
    { phase := .lease
      status := .rejected
      reason := .staleFenceRejected
      failureCategory := .leaseFence
      attributes :=
        [("outbox_id", .id current.outboxId),
          ("outbox_status", .str current.status.value),
          ("fencing_token", .num current.fencingToken),
          ("worker_reference", .digest item.workerOwnerHash),
          ("sensitive_fields_present", .bool false)] }
  obtain ⟨traces, htraces, hcount⟩ := appendTraceEvent_room { db with audit := audit } reported
    now hlapsed.run hchecked hroom
  refine ⟨audit, traces, ?_, hhead, hcount⟩
  show (do let db ← appendTraceEvent _ _ _ _ _; .ok (false, db) : Except Failure (Bool × Db)) = _
  rw [htraces]
  rfl

/-! ## The end of the run -/

omit [Sha256] in
theorem leaseHistory_integrity {outbox : DispatchOutbox} {status : LeaseStatus} {now : Time}
    {e : Failure} (h : leaseHistory db outbox status now = .error e) : e = .integrityError := by
  unfold leaseHistory Db.insertLease at h
  repeat' split at h
  all_goals
    cases h <;> rfl

omit [Sha256] in
theorem updateOutbox_integrity {where_ : DispatchOutbox → Bool}
    {set : DispatchOutbox → DispatchOutbox} {hset : ∀ o, (set o).outboxId = o.outboxId}
    {e : Failure} (h : db.updateOutbox where_ set hset = .error e) : e = .integrityError := by
  unfold Db.updateOutbox at h
  dsimp only at h
  split at h
  all_goals
    cases h <;> rfl

omit [Sha256] in
theorem updatePartition_integrity {set : SchedulerPartition → SchedulerPartition}
    {hset : ∀ p, (set p).organizationId = p.organizationId} {e : Failure}
    (h : db.updatePartition organizationId set hset = .error e) : e = .integrityError := by
  unfold Db.updatePartition at h
  dsimp only at h
  split at h
  all_goals
    cases h <;> rfl

/-- A full trace refuses the end of the run, whatever its reason. -/
theorem failLocked_full {w : Repository} {run : ProductionRun} {outbox : DispatchOutbox}
    {reason : TerminalReason} {now : Time} (haudited : Audited db run.organizationId)
    (hrun : run ∈ db.runs.rows)
    (hfull : 256 ≤ traceCount db.traces run.organizationId run.runId)
    (havoids : Avoids .integrityError (failLocked w db run outbox reason now)) :
    failLocked w db run outbox reason now = .error (.runtimeError traceBoundText) := by
  unfold failLocked at havoids ⊢
  apply havoids.error_of_bind fun e h => leaseHistory_integrity h
  intro db₁ h₁ havoids
  obtain ⟨leases, rfl, _⟩ := leaseHistory_ok h₁
  apply havoids.error_of_bind fun e h => updateOutbox_integrity h
  intro db₂ h₂ havoids
  obtain ⟨rfl, _⟩ := Db.updateOutbox_ok h₂
  apply havoids.error_of_bind fun e h => updatePartition_integrity h
  intro db₃ h₃ havoids
  obtain ⟨rfl, _⟩ := Db.updatePartition_ok h₃
  apply havoids.error_of_bind
  · intro e h
    refine absurd h (appendAudit_accepted ?_ e)
    exact ⟨haudited.organization, haudited.head⟩
  rintro ⟨sequence, db₄⟩ h₄ _
  obtain ⟨audit, rfl⟩ := appendAudit_ok h₄
  dsimp only
  rw [appendTraceEvent_full]
  · rfl
  · have hfailed := Table.update_mem hrun
      (p := fun r => r.organizationId = run.organizationId ∧ r.runId = run.runId)
      (f := fun r =>
        { r with
          status := .failed
          version := r.version + 1
          finishedAt := some now
          terminalReason := some reason
          updatedAt := now }) (by simp)
    refine Table.one?_isSome (Table.update_mem hfailed (by simp)) (by simp)
  · exact hfull

/-- The item holds the lease of its row and of its run. -/
@[mk_iff holds_iff]
structure Holds (db : Db) (item : WorkItem) : Prop where
  outbox : (db.outbox.one? fun o =>
    o.organizationId = item.organizationId ∧ o.outboxId = item.outboxId ∧
      (o.status = .leased ∨ o.status = .dispatched) ∧
      o.leaseOwnerHash = some item.workerOwnerHash ∧ o.fencingToken = item.fencingToken ∧
      o.leaseVersion = item.leaseVersion).isSome
  run : (db.runs.one? fun r =>
    r.organizationId = item.organizationId ∧ r.runId = item.runId ∧
      (r.status = .leased ∨ r.status = .recovering ∨ r.status = .running) ∧
      r.leaseOwnerHash = some item.workerOwnerHash ∧ r.fencingToken = item.fencingToken).isSome

/-- The holder of the lease is refused when it reports a failure. -/
theorem fail_full {w : Repository} {item : WorkItem} {reason : TerminalReason} {now : Time}
    (hc : db.Consistent) (hcounted : db.Counted) (hi : Issued db item)
    (haudited : Audited db item.organizationId) (hholds : Holds db item)
    (hfull : 256 ≤ traceCount db.traces item.organizationId item.runId) :
    fail w item reason now db = .error (.runtimeError traceBoundText) := by
  have havoids : Avoids .integrityError (fail w item reason now db) :=
    fail_avoids hc hcounted hi
  obtain ⟨outbox, houtbox⟩ := Option.isSome_iff_exists.mp hholds.outbox
  obtain ⟨run, hrun⟩ := Option.isSome_iff_exists.mp hholds.run
  unfold fail at havoids ⊢
  dsimp only at havoids ⊢
  rw [houtbox, hrun] at havoids ⊢
  obtain ⟨hmem, hids⟩ := Table.one?_mem hrun
  obtain ⟨horganization, hrunId, _⟩ := of_decide_eq_true hids
  rw [← horganization] at haudited
  rw [← horganization, ← hrunId] at hfull
  exact failLocked_full haudited hmem hfull havoids

end

end Worker

/-! ## A run that cannot be ended -/

section

variable [Sha256]

/-- By the heartbeats of a lost lease the trace grows to any length within the bound. -/
theorem World.heartbeats_fill {world : World} {item : WorkItem} (w : Repository) (now : Time)
    (hitem : item ∈ world.items) (hlapsed : Worker.Lapsed world.plane.db item)
    (hhead : (world.plane.db.audit.heads.get? item.organizationId).isSome) (n : Nat)
    (hroom : traceCount world.plane.db.traces item.organizationId item.runId + n ≤ 256) :
    ∃ next audit traces, ReflTransGen World.SerialStep world next ∧ next.items = world.items ∧
      next.plane.db = { world.plane.db with audit := audit, traces := traces } ∧
      (audit.heads.get? item.organizationId).isSome ∧
      traceCount traces item.organizationId item.runId =
        traceCount world.plane.db.traces item.organizationId item.runId + n := by
  induction n with
  | zero => exact ⟨world, world.plane.db.audit, world.plane.db.traces, .refl, rfl, rfl, hhead, rfl⟩
  | succ n ih =>
      obtain ⟨next, audit, traces, hrun, hitems, hdb, hnextHead, hcount⟩ := ih (by omega)
      have hnext : Worker.Lapsed next.plane.db item := by
        rw [hdb]
        exact ⟨hlapsed.organization, hlapsed.stale, hlapsed.run, hlapsed.reported⟩
      have htraces : next.plane.db.traces = traces := by rw [hdb]
      obtain ⟨audit', traces', hbeat, hbeatHead, hbeatCount⟩ := Worker.heartbeat_room now hnext
        (by rw [hdb]; exact hnextHead) (by rw [htraces]; omega)
      have hcommit : (Call.heartbeat w item now).commit next.plane =
          .ok (none, { next.plane with
            db := { next.plane.db with audit := audit', traces := traces' } }) := by
        show onDb next.plane (fun _ => none) (Worker.heartbeat item now next.plane.db) = _
        rw [hbeat]
        rfl
      refine ⟨_, audit', traces',
        hrun.tail (.call (c := .heartbeat w item now) trivial ?_ hcommit), ?_, ?_, hbeatHead, ?_⟩
      · rintro i ⟨⟩
        rw [hitems]
        exact hitem
      · show next.items ++ [] = _
        rw [List.append_nil, hitems]
      · show { next.plane.db with audit := audit', traces := traces' } = _
        rw [hdb]
      · rw [hbeatCount, htraces, hcount, Nat.add_assoc]

/-- Where a lease of a run is lost and another is held, the heartbeats of the one can make every
failure report of the other fail. -/
theorem World.heartbeats_block {world : World} {lost held : WorkItem} (w w' : Repository)
    (reason : TerminalReason) (now now' : Time) (hv : world.Valid) (hcounted : world.plane.db.Counted)
    (hlost : lost ∈ world.items) (hheld : held ∈ world.items) (hlapsed : Worker.Lapsed world.plane.db lost)
    (hholds : Worker.Holds world.plane.db held)
    (hhead : (world.plane.db.audit.heads.get? lost.organizationId).isSome)
    (hsame : held.organizationId = lost.organizationId ∧ held.runId = lost.runId)
    (hroom : traceCount world.plane.db.traces lost.organizationId lost.runId ≤ 256) :
    ∃ next, ReflTransGen World.SerialStep world next ∧ held ∈ next.items ∧
      (Call.fail w held reason now).commit next.plane =
        .error (.runtimeError traceBoundText) := by
  obtain ⟨n, hn⟩ := Nat.exists_eq_add_of_le hroom
  obtain ⟨next, audit, traces, hrun, hitems, hdb, hnextHead, hfull⟩ :=
    World.heartbeats_fill w' now' hlost hlapsed hhead n (by omega)
  obtain ⟨hnext, hnextCounted⟩ := World.counted_of_run hv hcounted (World.run_of_serial hrun)
  have hmem : held ∈ next.items := by
    rw [hitems]
    exact hheld
  have haudited : Audited next.plane.db held.organizationId := by
    rw [hdb, hsame.1]
    exact ⟨hlapsed.organization, hnextHead⟩
  have hstill : Worker.Holds next.plane.db held := by
    rw [hdb]
    exact ⟨hholds.outbox, hholds.run⟩
  refine ⟨next, hrun, hmem, ?_⟩
  show onDb next.plane (fun _ => none) (Worker.fail w held reason now next.plane.db) = _
  rw [Worker.fail_full hnext.consistent hnextCounted (hnext.issued _ hmem) haudited hstill]
  · rfl
  · rw [hdb, hsame.1, hsame.2]
    show 256 ≤ traceCount traces _ _
    omega

end

section

attribute [local instance] polynomialSha256

namespace Sample

theorem releasedAndLeased_items : releasedAndLeased.items ≠ [] := by
  have htokens := releasedAndLeased_evaluated.1
  intro hnone
  rw [hnone] at htokens
  cases htokens

/-- The work item of the second lease. -/
def secondItem : WorkItem := releasedAndLeased.items.getLast releasedAndLeased_items

theorem secondItem_mem : secondItem ∈ releasedAndLeased.items := by
  unfold secondItem
  exact List.getLast_mem _

/-- The first lease is lost, the second is held, and five events have been written. -/
theorem two_leases :
    item ∈ releasedAndLeased.items ∧ Worker.Lapsed releasedAndLeased.plane.db item ∧
      Worker.Holds releasedAndLeased.plane.db secondItem ∧
      (secondItem.organizationId = item.organizationId ∧ secondItem.runId = item.runId) ∧
      (releasedAndLeased.plane.db.audit.heads.get? item.organizationId).isSome ∧
      traceCount releasedAndLeased.plane.db.traces item.organizationId item.runId = 5 := by
  simp only [Worker.lapsed_iff, Worker.holds_iff]
  decide +kernel

end Sample

/-- The worker whose lease was released fills the trace of the run, and the worker that holds it
now cannot report its failure. -/
theorem full_trace_blocks_fail :
    ∃ world, ReflTransGen World.SerialStep Sample.start world ∧ ∃ item ∈ world.items,
      (Call.fail Sample.worker item .workerDrained (5 * second)).commit world.plane =
        .error (.runtimeError traceBoundText) := by
  obtain ⟨hitem, hlapsed, hholds, hsame, hhead, hcount⟩ := Sample.two_leases
  obtain ⟨hv, hcounted⟩ := World.counted_of_run
    (World.valid_start Sample.directory .empty Sample.heads)
    (Db.Counted.initial Sample.directory .empty Sample.heads)
    (World.run_of_serial Sample.releasedAndLeased_run)
  obtain ⟨world, hrun, hmem, hblocked⟩ := World.heartbeats_block Sample.worker Sample.worker
    .workerDrained (5 * second) (4 * second) hv hcounted hitem Sample.secondItem_mem hlapsed hholds hhead hsame (by omega)
  exact ⟨world, Sample.releasedAndLeased_run.trans hrun, Sample.secondItem, hmem, hblocked⟩

/-- The lease that was just taken can be given up as failed. -/
theorem terminal_transition_fits_trace_sample :
    (match (Call.fail Sample.worker Sample.secondItem .workerDrained (5 * second)).commit
        Sample.releasedAndLeased.plane with
      | .error e => traceBound e
      | .ok _ => false) = false := by
  obtain ⟨_, _, _, hsame, _, hcount⟩ := Sample.two_leases
  have hfits := (terminal_transition_fits_trace Sample.directory .empty Sample.heads
    Sample.releasedAndLeased (World.run_of_serial Sample.releasedAndLeased_run)).2
    (.fail Sample.worker Sample.secondItem .workerDrained (5 * second)) Sample.item.organizationId
    Sample.item.runId 1 ?_ ?_ ?_
  · cases hcommit : (Call.fail Sample.worker Sample.secondItem .workerDrained (5 * second)).commit
      Sample.releasedAndLeased.plane with
    | error e => exact hfits e hcommit
    | ok reply => rfl
  · intro i hi
    rw [← Option.some.inj hi]
    exact Sample.secondItem_mem
  · show some (Sample.secondItem.organizationId, Sample.secondItem.runId, 1) = _
    rw [hsame.1, hsame.2]
  · omega

end

end FlowPilot
