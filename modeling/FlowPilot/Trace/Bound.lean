import FlowPilot.Dispatch.Leases
import FlowPilot.Trace.ControlTraces

/-!
# The bound on the trace of a run

A run's trace holds at most 256 events, and a transition that would write one more is rolled back
with everything else it does.  Whether the last transition of a run still fits depends on the
events before it, of which a worker with a stale lease writes any number.
-/

open FlowPilot.Lib Relation

namespace FlowPilot

open Control (Plane Outcome)
open Worker (WorkItem Locked Repository OwnRow)

section

variable [Sha256]

omit [Sha256] in
theorem Worker.Issued.ownRow {db : Db} {item : WorkItem} (hi : Worker.Issued db item) :
    OwnRow db item := by
  obtain ⟨x, hx, s, _, hissued⟩ := hi
  intro o ho hid
  have hoId : o.outboxId = x.outboxId := by
    rw [hid, hissued.terms]
    rfl
  rw [show o = x from Table.eq_of_key ho hx hoId, hissued.run, hissued.terms]
  rfl

/-- The run that a call may bring to its end, and the number of trace events that it writes
then. -/
def Call.ends (db : Db) : Call → Option (OrganizationId × RunId × Nat)
  | .cancel _ organizationId runId _ _ _ => some (organizationId, runId, 1)
  | .claimNext _ locked now =>
    match Worker.selectPartition db locked with
    | none => none
    | some partition =>
      (Worker.selectOutbox db locked partition.organizationId now).map fun outbox =>
        (partition.organizationId, outbox.runId, 1)
  | .markStarted _ item now =>
    some (item.organizationId, item.runId, Worker.startEvents db item now)
  | .complete _ item outcome now =>
    some (item.organizationId, item.runId, Worker.completeEvents db item outcome now)
  | .fail _ item _ _ => some (item.organizationId, item.runId, 1)
  | _ => none

/-! ## Calls -/

/-- What a worker's transaction writes is what its call writes. -/
theorem onDb_writes {Q : TraceEntry → Prop} {organizationId : OrganizationId} {runId : RunId}
    {n : Nat} {traces : List ObservabilityEvent} {α : Type} {plane : Plane}
    {issue : α → Option WorkItem} {body : Except Failure (α × Db)}
    (h : Writes Q organizationId runId n traces Prod.snd body) :
    Writes Q organizationId runId n traces (fun r => r.2.db) (onDb plane issue body) := by
  unfold onDb
  cases body with
  | error e =>
      constructor
      · rintro _ ⟨⟩
      · rintro _ ⟨⟩
      · rintro hroom _ ⟨⟩
        exact h.fits hroom e rfl
  | ok r =>
      constructor
      · rintro _ ⟨⟩
        exact h.grows r rfl
      · rintro _ ⟨⟩
        exact h.count r rfl
      · rintro _ _ ⟨⟩

theorem onPlane_writes {Q : TraceEntry → Prop} {organizationId : OrganizationId} {runId : RunId}
    {n : Nat} {traces : List ObservabilityEvent} {α : Type} {body : Except Failure (Outcome α)}
    (h : Writes Q organizationId runId n traces (fun r => r.2.db) body) :
    Writes Q organizationId runId n traces (fun r => r.2.db) (onPlane body) := by
  unfold onPlane
  cases body with
  | error e =>
      constructor
      · rintro _ ⟨⟩
      · rintro _ ⟨⟩
      · rintro hroom _ ⟨⟩
        exact h.fits hroom e rfl
  | ok r =>
      constructor
      · rintro _ ⟨⟩
        exact h.grows r rfl
      · rintro _ ⟨⟩
        exact h.count r rfl
      · rintro _ _ ⟨⟩

theorem Call.ends_writes {c : Call} {plane : Plane} {organizationId : OrganizationId}
    {runId : RunId} {n : Nat} (hrows : ∀ item, c.item? = some item → OwnRow plane.db item)
    (hattempts : ∀ o ∈ plane.db.outbox.rows, o.attemptCount ≤ 3)
    (hends : c.ends plane.db = some (organizationId, runId, n)) :
    Writes (fun _ => True) organizationId runId n plane.db.traces (fun r => r.2.db)
      (c.commit plane) := by
  cases c with
  | admitRun => cases hends
  | claimRun => cases hends
  | cancel =>
      cases hends
      exact onPlane_writes (Control.cancelProductionRun_writes.weaken fun _ _ => trivial)
  | claimNext w locked now =>
      unfold Call.ends at hends
      dsimp only at hends
      split at hends
      · cases hends
      · next partition hpartition =>
          obtain ⟨outbox, houtbox, hids⟩ := Option.map_eq_some_iff.mp hends
          cases hids
          refine onDb_writes ((Worker.claimNext_writes hattempts ?_).weaken fun _ _ => trivial)
          intro partition' outbox' hpartition' houtbox'
          rw [hpartition] at hpartition'
          cases hpartition'
          rw [houtbox] at houtbox'
          cases houtbox'
          exact ⟨rfl, rfl⟩
  | markStarted w item now =>
      cases hends
      exact onDb_writes ((Worker.markStarted_writes (hrows item rfl) hattempts).weaken fun _ _ => trivial)
  | heartbeat => cases hends
  | recordDeduplicated => cases hends
  | complete w item outcome now =>
      cases hends
      exact onDb_writes (Worker.complete_writes (hrows item rfl) hattempts)
  | fail w item reason now =>
      cases hends
      exact onDb_writes ((Worker.fail_writes (hrows item rfl) hattempts).weaken fun _ _ => trivial)
  | release => cases hends

theorem Worker.claimNext_grows {w : Repository} {locked : Locked} {now : Time} {db after : Db}
    {reply : Option WorkItem} (hattempts : ∀ o ∈ db.outbox.rows, o.attemptCount ≤ 3)
    (h : Worker.claimNext w locked now db = .ok (reply, after)) :
    Grows TraceEntry.Plain db.traces after.traces := by
  have hselected : ∃ organizationId runId, ∀ partition outbox,
      selectPartition db locked = some partition →
      selectOutbox db locked partition.organizationId now = some outbox →
      partition.organizationId = organizationId ∧ outbox.runId = runId := by
    cases hpartition : selectPartition db locked with
    | none => exact ⟨⟨0⟩, ⟨0⟩, by rintro _ _ ⟨⟩⟩
    | some partition =>
        cases houtbox : selectOutbox db locked partition.organizationId now with
        | none =>
            refine ⟨⟨0⟩, ⟨0⟩, ?_⟩
            rintro _ _ ⟨⟩ hsome
            rw [houtbox] at hsome
            cases hsome
        | some outbox =>
            refine ⟨partition.organizationId, outbox.runId, ?_⟩
            rintro _ _ ⟨⟩ hsome
            rw [houtbox] at hsome
            cases hsome
            exact ⟨rfl, rfl⟩
  obtain ⟨organizationId, runId, hselected⟩ := hselected
  exact (claimNext_writes hattempts hselected).grows _ h

def Call.isComplete : Call → Bool
  | .complete .. => true
  | _ => false

/-- Every call but `complete` writes plain entries. -/
theorem Call.commit_plain {c : Call} {plane after : Plane} {reply : Option WorkItem}
    (hrows : ∀ item, c.item? = some item → OwnRow plane.db item)
    (hattempts : ∀ o ∈ plane.db.outbox.rows, o.attemptCount ≤ 3) (hother : c.isComplete = false)
    (h : c.commit plane = .ok (reply, after)) :
    Grows TraceEntry.Plain plane.db.traces after.db.traces := by
  cases c with
  | admitRun =>
      obtain ⟨result, hbody, _⟩ := onPlane_ok h
      exact Control.admitLocked_grows hbody
  | claimRun =>
      obtain ⟨result, hbody, _⟩ := onPlane_ok h
      exact Control.claimProductionRun_grows hbody
  | cancel =>
      obtain ⟨result, hbody, _⟩ := onPlane_ok h
      exact Control.cancelProductionRun_writes.grows _ hbody
  | claimNext w locked now =>
      obtain ⟨item, db, hbody, _, rfl⟩ := onDb_ok h
      exact Worker.claimNext_grows hattempts hbody
  | markStarted w item now =>
      obtain ⟨result, db, hbody, _, rfl⟩ := onDb_ok h
      exact (Worker.markStarted_writes (hrows item rfl) hattempts).grows _ hbody
  | heartbeat w item now =>
      obtain ⟨result, db, hbody, _, rfl⟩ := onDb_ok h
      exact (Worker.heartbeat_writes (hrows item rfl)).grows _ hbody
  | recordDeduplicated w item now =>
      obtain ⟨result, db, hbody, _, rfl⟩ := onDb_ok h
      exact (Worker.recordDeduplicated_writes (hrows item rfl)).grows _ hbody
  | complete => cases hother
  | fail w item reason now =>
      obtain ⟨result, db, hbody, _, rfl⟩ := onDb_ok h
      exact (Worker.fail_writes (hrows item rfl) hattempts).grows _ hbody
  | release w item now =>
      obtain ⟨result, db, hbody, _, rfl⟩ := onDb_ok h
      exact (Worker.release_writes (hrows item rfl)).grows _ hbody

/-- Every call appends to the trace. -/
theorem Call.commit_grows {c : Call} {plane after : Plane} {reply : Option WorkItem}
    (hrows : ∀ item, c.item? = some item → OwnRow plane.db item)
    (hattempts : ∀ o ∈ plane.db.outbox.rows, o.attemptCount ≤ 3)
    (h : c.commit plane = .ok (reply, after)) :
    Grows (fun _ => True) plane.db.traces after.db.traces := by
  cases hcomplete : c.isComplete with
  | false => exact (Call.commit_plain hrows hattempts hcomplete h).mono fun _ _ => trivial
  | true =>
      cases c with
      | complete w item outcome now => exact (Call.ends_writes hrows hattempts rfl).grows _ h
      | _ => cases hcomplete

/-! ## Runs of the services -/

/-- The step lemma. -/
theorem World.Step.grows {world next : World} (hv : world.Valid) (h : World.Step world next) :
    Grows (fun _ => True) world.plane.db.traces next.plane.db.traces := by
  cases h with
  | call hitem hcommit =>
      exact Call.commit_grows (fun item h => (hv.issued item (hitem item h)).ownRow)
        hv.consistent.attempts hcommit
  | approvals h =>
      rw [show (world.after none _).plane.db.traces = world.plane.db.traces from h.traces]

theorem World.wellTraced_of_run {world next : World} (hv : world.Valid)
    (hwell : ∀ organizationId runId, WellTraced world.plane.db.traces organizationId runId)
    (hrun : ReflTransGen World.Step world next) :
    ∀ organizationId runId, WellTraced next.plane.db.traces organizationId runId := by
  have hboth := invariant_of_run (I := fun w : World => w.Valid ∧
    ∀ organizationId runId, WellTraced w.plane.db.traces organizationId runId)
    (fun _ _ hs hstep => ⟨hstep.valid hs.1, fun organizationId runId =>
      (hs.2 organizationId runId).grows (hstep.grows hs.1)⟩) ⟨hv, hwell⟩ hrun
  exact hboth.2

theorem terminal_transition_fits_trace (directory : Directory)
    (authorities : Table ApprovalAuthority) (heads : Table AuditChainHead) (world : World)
    (hrun : ReflTransGen World.Step (World.start directory authorities heads) world) :
    (∀ organizationId runId, WellTraced world.plane.db.traces organizationId runId) ∧
    ∀ (c : Call) organizationId runId n, (∀ item, c.item? = some item → item ∈ world.items) →
      c.ends world.plane.db = some (organizationId, runId, n) →
      traceCount world.plane.db.traces organizationId runId + n ≤ 256 →
      ∀ e, c.commit world.plane = .error e → traceBound e = false := by
  have hstart := World.valid_start directory authorities heads
  have hv := World.valid_of_run hstart hrun
  refine ⟨World.wellTraced_of_run hstart (fun _ _ => ⟨rfl, ?_⟩) hrun, ?_⟩
  · intro e he
    cases he
  · intro c organizationId runId n hitem hends hroom
    exact (c.ends_writes (fun item h => (hv.issued item (hitem item h)).ownRow)
      hv.consistent.attempts hends).fits hroom

end

end FlowPilot
