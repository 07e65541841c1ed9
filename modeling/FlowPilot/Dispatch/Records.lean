import FlowPilot.Dispatch.Admitted
import FlowPilot.Dispatch.Leases

/-!
# Runs and the records of their keys

An admission inserts a run together with the record of its idempotency key, and both stay.  The
record is the only row of an admission whose constraint another transaction can have taken.
-/

open FlowPilot.Lib Relation

namespace FlowPilot

open Control (Admission Admitted Plane)

/-! ## Runs and their records -/

/-- The record of the key that the run was admitted with. -/
structure IdempotencyRecord.Of (record : IdempotencyRecord) (run : ProductionRun) : Prop where
  organization : record.organizationId = run.organizationId
  actor : record.actorUserId = run.requesterUserId
  key : record.keyHash = run.idempotencyHash
  body : record.bodyHash = run.bodyHash
  run : record.runId = run.runId

/-- Every run has its record, every record its run, and the requests of the runs exist. -/
structure Db.Recorded (db : Db) : Prop where
  record : ∀ run ∈ db.runs.rows, ∃ record ∈ db.idempotency.rows, record.Of run
  run : ∀ record ∈ db.idempotency.rows, ∃ run ∈ db.runs.rows, record.Of run
  request : ∀ run ∈ db.runs.rows, ∀ k, run.approvalRequestId = some k →
    (db.requests.get? k).isSome

namespace Db

variable {db after : Db}

theorem Recorded.initial (directory : Directory) (authorities : Table ApprovalAuthority)
    (heads : Table AuditChainHead) : (Db.initial directory authorities heads).Recorded where
  record := fun _ h => absurd h List.not_mem_nil
  run := fun _ h => absurd h List.not_mem_nil
  request := fun _ h => absurd h List.not_mem_nil

/-- One run for each key of an actor. -/
theorem Recorded.single (h : db.Recorded) {r s : ProductionRun} (hr : r ∈ db.runs.rows)
    (hs : s ∈ db.runs.rows) (horganization : r.organizationId = s.organizationId)
    (hactor : r.requesterUserId = s.requesterUserId)
    (hkey : r.idempotencyHash = s.idempotencyHash) : r = s := by
  obtain ⟨x, hx, hxr⟩ := h.record r hr
  obtain ⟨y, hy, hys⟩ := h.record s hs
  have hkeys : Keyed.key x = Keyed.key y := by
    show (x.organizationId, x.actorUserId, x.keyHash) = (y.organizationId, y.actorUserId, y.keyHash)
    rw [hxr.organization, hxr.actor, hxr.key, hys.organization, hys.actor, hys.key, horganization,
      hactor, hkey]
  have hsame : x = y := Table.eq_of_key hx hy hkeys
  subst hsame
  exact Table.eq_of_key hr hs (hxr.run.symm.trans hys.run)

theorem IdempotencyRecord.Of.of_accepted {record : IdempotencyRecord} {r r' : ProductionRun}
    (h : r'.accepted = r.accepted) (hr : record.Of r) : record.Of r' := by
  have hof : record.Of r.accepted := ⟨hr.organization, hr.actor, hr.key, hr.body, hr.run⟩
  rw [← h] at hof
  exact ⟨hof.organization, hof.actor, hof.key, hof.body, hof.run⟩

/-- The step lemma. -/
theorem SameAdmissions.recorded (h : SameAdmissions db after) (hdb : db.Recorded) :
    after.Recorded := by
  have hold : ∀ r' ∈ after.runs.rows, ∃ r ∈ db.runs.rows, r.accepted = r'.accepted := by
    intro r' hr'
    have hmem := List.mem_map_of_mem (f := ProductionRun.accepted) hr'
    rw [h.runs] at hmem
    exact List.mem_map.mp hmem
  have hnew : ∀ r ∈ db.runs.rows, ∃ r' ∈ after.runs.rows, r'.accepted = r.accepted := by
    intro r hr
    have hmem := List.mem_map_of_mem (f := ProductionRun.accepted) hr
    rw [← h.runs] at hmem
    exact List.mem_map.mp hmem
  refine ⟨?_, ?_, ?_⟩
  · intro r' hr'
    obtain ⟨r, hr, hsame⟩ := hold r' hr'
    obtain ⟨record, hrecord, hof⟩ := hdb.record r hr
    rw [h.idempotency]
    exact ⟨record, hrecord, IdempotencyRecord.Of.of_accepted hsame.symm hof⟩
  · intro record hrecord
    rw [h.idempotency] at hrecord
    obtain ⟨r, hr, hof⟩ := hdb.run record hrecord
    obtain ⟨r', hr', hsame⟩ := hnew r hr
    exact ⟨r', hr', IdempotencyRecord.Of.of_accepted hsame hof⟩
  · intro r' hr' k hk
    obtain ⟨r, hr, hsame⟩ := hold r' hr'
    have happroval : r.accepted.approvalRequestId = r'.accepted.approvalRequestId := by
      rw [hsame]
    exact h.requests k (hdb.request r hr k (Eq.trans happroval hk))

variable [Sha256]

/-- The record that an admission inserts with its run. -/
theorem admitted_record {a : Admission} {run : ProductionRun} (h : Admitted a db after run) :
    ∃ record hfresh, after.idempotency = db.idempotency.insert record hfresh ∧ record.Of run ∧
      record.bodyHash = a.bodyHash := by
  obtain ⟨record, hfresh, hrecords, horganization, hactor, hkey, hbody, hrun⟩ := h.idempotency
  refine ⟨record, hfresh, hrecords, ?_, hbody⟩
  exact
    { organization := horganization.trans h.organization.symm
      actor := hactor.trans h.key.1.symm
      key := hkey.trans h.key.2.1.symm
      body := hbody.trans h.key.2.2.symm
      run := hrun }

theorem admitted_requests {a : Admission} {run : ProductionRun} (h : Admitted a db after run) :
    KeepsRequests db after ∧ ∀ k, run.approvalRequestId = some k →
      (after.requests.get? k).isSome := by
  rcases h.requests with ⟨⟨request, hfresh, hrequests, _, _, _, hid⟩, _⟩ | ⟨⟨hrequests, hnone⟩, _⟩
  · rw [hid]
    refine ⟨?_, ?_⟩
    · intro k hk
      rw [hrequests, Table.get?_insert]
      split
      · rfl
      · exact hk
    · intro k hk
      cases hk
      rw [hrequests, Table.get?_insert, if_pos (key_request request)]
      rfl
  · refine ⟨.of_eq hrequests, fun k hk => ?_⟩
    rw [hnone] at hk
    cases hk

theorem admitted_recorded {a : Admission} {run : ProductionRun} (h : Admitted a db after run)
    (hdb : db.Recorded) : after.Recorded := by
  obtain ⟨hfreshRun, hruns⟩ := h.runs
  obtain ⟨record, hfresh, hrecords, hof, _⟩ := admitted_record h
  obtain ⟨hkept, hrequest⟩ := admitted_requests h
  refine ⟨?_, ?_, ?_⟩
  · rw [hruns, hrecords]
    refine Table.forall_insert hfreshRun ?_
      ⟨record, (Table.mem_insert hfresh).mpr (.inr rfl), hof⟩
    intro r hr
    obtain ⟨x, hx, hxr⟩ := hdb.record r hr
    exact ⟨x, (Table.mem_insert hfresh).mpr (.inl hx), hxr⟩
  · rw [hruns, hrecords]
    refine Table.forall_insert hfresh ?_
      ⟨run, (Table.mem_insert hfreshRun).mpr (.inr rfl), hof⟩
    intro x hx
    obtain ⟨r, hr, hxr⟩ := hdb.run x hx
    exact ⟨r, (Table.mem_insert hfreshRun).mpr (.inl hr), hxr⟩
  · rw [hruns]
    exact Table.forall_insert hfreshRun (fun r hr k hk => hkept k (hdb.request r hr k hk)) hrequest

theorem Admits.recorded (h : Admits db after) (hdb : db.Recorded) : after.Recorded := by
  cases h with
  | same h => exact h.recorded hdb
  | admitted h => exact admitted_recorded h hdb

theorem Admits.records (h : Admits db after) {record : IdempotencyRecord}
    (hrecord : record ∈ db.idempotency.rows) : record ∈ after.idempotency.rows := by
  cases h with
  | same h =>
    rw [h.idempotency]
    exact hrecord
  | admitted h =>
    obtain ⟨added, hfresh, hrecords, _⟩ := h.idempotency
    rw [hrecords]
    exact (Table.mem_insert hfresh).mpr (.inl hrecord)

end Db

/-! ## What an admission raises -/

section

variable {db after : Db}

theorem Db.insertRun_avoids {run : ProductionRun} (hfresh : db.runs.get? run.runId = none)
    (hexecution : run.executionId = none)
    (hrequest : ∀ r ∈ db.runs.rows, ∀ k, run.approvalRequestId = some k →
      r.approvalRequestId ≠ some k) : Avoids .integrityError (db.insertRun run) := by
  have hunique : db.runs.one? (fun r => r.organizationId = run.organizationId ∧
      (r.approvalRequestId.isSome ∧ r.approvalRequestId = run.approvalRequestId ∨
        r.executionId.isSome ∧ r.executionId = run.executionId)) = none := by
    refine Table.one?_eq_none.mpr fun r hr => ?_
    rw [decide_eq_false_iff_not]
    rintro ⟨_, ⟨hsome, hsame⟩ | ⟨hsome, hsame⟩⟩
    · obtain ⟨k, hk⟩ := Option.isSome_iff_exists.mp hsome
      exact hrequest r hr k (hsame.symm.trans hk) hk
    · rw [hsame, hexecution] at hsome
      cases hsome
  unfold Db.insertRun
  rw [hunique, Table.insert?_of_fresh hfresh]
  exact Avoids.ok _ _

theorem Db.insertOutbox_avoids {outbox : DispatchOutbox} {run : ProductionRun}
    (hrun : run ∈ db.runs.rows) (horganization : run.organizationId = outbox.organizationId)
    (hid : run.runId = outbox.runId) (hfresh : db.outbox.get? outbox.outboxId = none)
    (hunqueued : ∀ o ∈ db.outbox.rows, o.runId ≠ outbox.runId) :
    Avoids .integrityError (db.insertOutbox outbox) := by
  have hfound : (db.runs.one? fun r => r.organizationId = outbox.organizationId ∧
      r.runId = outbox.runId).isSome := Table.one?_isSome hrun (by simp [horganization, hid])
  have hsingle : db.outbox.one? (fun o => o.organizationId = outbox.organizationId ∧
      o.runId = outbox.runId) = none := by
    refine Table.one?_eq_none.mpr fun o ho => ?_
    rw [decide_eq_false_iff_not]
    exact fun hsame => hunqueued o ho hsame.2
  unfold Db.insertOutbox
  rw [if_neg (by rw [Option.isNone_iff_eq_none]; exact Option.isSome_iff_ne_none.mp hfound),
    hsingle, Table.insert?_of_fresh hfresh]
  exact Avoids.ok _ _

/-- A queue with room is counted up within its bounds. -/
theorem Control.addReady_avoids {organizationId : OrganizationId} {now : Time}
    (hrange : db.InRange)
    (hbelow : ∀ p ∈ db.partitions.rows, p.organizationId = organizationId → p.readyCount < 32) :
    Avoids .integrityError (Control.addReady db organizationId now) := by
  unfold Control.addReady
  refine Db.updatePartition_avoids hrange fun p hp horganization => ?_
  have hpositive := (hrange p hp).1
  have hroom := hbelow p hp horganization
  dsimp only
  omega

variable [Sha256] {a : Admission}

theorem Control.admitRequest_avoids : Avoids .integrityError (Control.admitRequest a db) := by
  unfold Control.admitRequest
  split
  · apply Avoids.bind (Control.appendAuditEvent_avoids _ _ _ _ _ _ _)
    rintro ⟨sequence, db₁⟩ haudit
    obtain ⟨audit, rfl⟩ := Control.appendAuditEvent_ok haudit
    dsimp only
    apply Avoids.bind
    · unfold Db.insertRequest
      rw [Table.insert?_of_fresh (Db.freshRequestId_fresh _)]
      exact Avoids.ok _ _
    · intro db₂ _
      exact Avoids.ok _ _
  · exact Avoids.ok _ _

/-- There is room for a run that is queued at once. -/
structure Db.RoomFor (db : Db) (organizationId : OrganizationId) : Prop where
  range : db.InRange
  below : ∀ p ∈ db.partitions.rows, p.organizationId = organizationId → p.readyCount < 32

omit [Sha256] in
theorem Control.admitOutbox_avoids {run : ProductionRun} (hrun : run ∈ db.runs.rows)
    (horganization : run.organizationId = a.organizationId)
    (hunqueued : ∀ o ∈ db.outbox.rows, o.runId ≠ run.runId)
    (hroom : a.waits = false → db.RoomFor a.organizationId) :
    Avoids .integrityError (Control.admitOutbox a run db) := by
  unfold Control.admitOutbox
  split
  · exact Avoids.ok _ _
  next hwaits =>
    have hroom := hroom (Bool.eq_false_iff.mpr hwaits)
    dsimp only
    apply Avoids.bind
    · exact Db.insertOutbox_avoids hrun horganization rfl (Db.freshOutboxId_fresh db) hunqueued
    · intro db₁ hinsert
      obtain ⟨hfresh, rfl, _⟩ := Db.insertOutbox_ok hinsert
      apply Avoids.bind
      · exact Control.addReady_avoids hroom.range hroom.below
      · intro db₂ _
        exact Avoids.ok _ _

/-- The record of the key is the only row whose constraint an admission can violate. -/
theorem Control.admitInserts_avoids (hc : db.Consistent) (hrecorded : db.Recorded)
    (hfree : db.idempotency.get? (a.organizationId, a.actor.userId, a.keyHash) = none)
    (hroom : a.waits = false → db.RoomFor a.organizationId) :
    Avoids .integrityError (Control.admitInserts a db) := by
  unfold Control.admitInserts
  apply Avoids.bind (Control.appendAuditEvent_avoids _ _ _ _ _ _ _)
  rintro ⟨_, db₁⟩ haudit
  obtain ⟨audit₁, rfl⟩ := Control.appendAuditEvent_ok haudit
  dsimp only
  apply Avoids.bind Control.admitRequest_avoids
  rintro ⟨requestId, db₂⟩ hrequest
  dsimp only
  apply Avoids.bind (Control.appendAuditEvent_avoids _ _ _ _ _ _ _)
  rintro ⟨sequence, db₃⟩ hqueued
  obtain ⟨audit₃, rfl⟩ := Control.appendAuditEvent_ok hqueued
  -- The request that was just inserted is the only difference so far.
  have hstate : db₂.runs = db.runs ∧ db₂.idempotency = db.idempotency ∧ db₂.outbox = db.outbox ∧
      db₂.partitions = db.partitions ∧ ∀ k, requestId = some k → k = db.freshRequestId := by
    rcases Control.admitRequest_ok hrequest with
      ⟨⟨request, hfresh, audit, rfl, _, _, hid, rfl⟩, _⟩ | ⟨⟨rfl, rfl⟩, _⟩
    · exact ⟨rfl, rfl, rfl, rfl, fun k hk => (Option.some.inj hk).symm.trans hid⟩
    · exact ⟨rfl, rfl, rfl, rfl, fun k hk => by cases hk⟩
  obtain ⟨hruns, hidempotency, houtbox, hpartitions, hid⟩ := hstate
  dsimp only
  apply Avoids.bind
  · refine Db.insertRun_avoids ?_ rfl ?_
    · rw [show ({ db₂ with audit := audit₃ } : Db).runs = db.runs from hruns]
      exact Db.freshRunId_fresh db
    · intro r hr k hk hsame
      rw [show ({ db₂ with audit := audit₃ } : Db).runs = db.runs from hruns] at hr
      have hsome := hrecorded.request r hr k hsame
      rw [hid k hk, Db.freshRequestId_fresh] at hsome
      cases hsome
  intro db₄ hrun
  obtain ⟨hfreshRun, rfl⟩ := Db.insertRun_ok hrun
  apply Avoids.bind
  · unfold Db.insertIdempotency
    rw [Table.insert?_of_fresh (by rw [hidempotency]; exact hfree)]
    exact Avoids.ok _ _
  intro db₅ hrecord
  obtain ⟨hfreshRecord, rfl⟩ := Db.insertIdempotency_ok hrecord
  apply Avoids.bind
  · refine Control.admitOutbox_avoids ((Table.mem_insert hfreshRun).mpr (.inr rfl)) rfl ?_ ?_
    · intro o ho
      rw [houtbox] at ho
      obtain ⟨r, hr, hor⟩ := hc.coupled o ho
      rw [hor.run]
      exact Table.get?_eq_none.mp (Db.freshRunId_fresh db) r hr
    · intro hwaits
      have hroom := hroom hwaits
      refine ⟨?_, ?_⟩
      · unfold Db.InRange
        rw [hpartitions]
        exact hroom.range
      · rw [hpartitions]
        exact hroom.below
  rintro ⟨outbox, db₆⟩ _
  dsimp only
  apply Avoids.bind (Control.appendObservabilityEvent_avoids _ _ _ _ _)
  intro db₇ _
  split
  · exact Avoids.ok _ _
  · apply Avoids.bind (Control.appendObservabilityEvent_avoids _ _ _ _ _)
    intro db₈ _
    exact Avoids.ok _ _

/-- What an admission relies on when it reaches its locked part. -/
structure Db.Admitting (db : Db) : Prop where
  consistent : db.Consistent
  recorded : db.Recorded
  range : db.InRange

omit [Sha256] in
theorem Db.Idle.admitting (h : db.Idle after) (hdb : db.Admitting) : after.Admitting where
  consistent := Control.idle_consistent h hdb.consistent
  recorded := (Db.SameAdmissions.of_idle h).recorded hdb.recorded
  range := h.range hdb.range

theorem Control.admitLocked_avoids {visible : List OrganizationId} {plane : Plane}
    (hdb : plane.db.Admitting)
    (hfree : plane.db.idempotency.get? (a.organizationId, a.actor.userId, a.keyHash) = none) :
    Avoids .integrityError (Control.admitLocked a visible plane) := by
  unfold Control.admitLocked
  split
  · apply Avoids.bind (Control.appendAuditEvent_avoids _ _ _ _ _ _ _)
    rintro ⟨_, db₁⟩ _
    exact Avoids.ok _ _
  apply Avoids.bind (rateLimit_avoids _ _ _ _ _)
  rintro ⟨limited, db₁⟩ hlimit
  have hidle := Control.rateLimit_idle hlimit
  dsimp only
  split
  · exact Avoids.ok _ _
  split
  next hwaits =>
    have hadmitting := hidle.admitting hdb
    apply Avoids.bind
    · refine Control.admitInserts_avoids hadmitting.consistent hadmitting.recorded ?_ ?_
      · rw [hidle.idempotency]
        exact hfree
      · intro hqueued
        rw [hwaits] at hqueued
        cases hqueued
    · rintro ⟨run, db₂⟩ _
      exact Avoids.ok _ _
  next hwaits =>
    obtain ⟨hensure, hpart⟩ := Control.ensurePartition_idle db₁ a.organizationId a.now
    have hlocked := hidle.trans hensure
    have hadmitting := hlocked.admitting hdb
    split
    next hcapacity =>
      apply Avoids.bind
      · refine Control.admitInserts_avoids hadmitting.consistent hadmitting.recorded ?_ ?_
        · rw [hlocked.idempotency]
          exact hfree
        · intro _
          refine ⟨hadmitting.range, fun p hp horganization => ?_⟩
          have hbelow := Control.capacity_below hpart hcapacity
          have hget := Table.get?_of_mem hp
          rw [key_partition, horganization] at hget
          unfold Db.readyCount Db.readyIn at hbelow
          rwa [hget] at hbelow
      · rintro ⟨run, db₂⟩ _
        exact Avoids.ok _ _
    next =>
      apply Avoids.bind (Control.appendAuditEvent_avoids _ _ _ _ _ _ _)
      rintro ⟨_, db₂⟩ _
      apply Avoids.bind (Control.appendAuditEvent_avoids _ _ _ _ _ _ _)
      rintro ⟨_, db₃⟩ _
      exact Avoids.ok _ _

end

end FlowPilot
