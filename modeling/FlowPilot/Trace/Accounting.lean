import FlowPilot.Trace.Bound
import FlowPilot.Trace.Usage

/-!
# The cost of a run in its trace

Nothing is accounted to a run before its last transition, and nothing after it.  What the last
transition accounts is found twice in the trace: in the planning summary and in the cost event.
-/

open FlowPilot.Lib Relation

namespace FlowPilot

open Control (amount Plane RunTraceExport buildRunTraceExport terminalFailure)
open Worker (WorkItem TemporalOutcome Repository OwnRow)

/-! ## What `complete` accounts -/

namespace Worker

section

variable [Sha256] {db after : Db} {organizationId : OrganizationId} {runId : RunId}

theorem appendTraceEvent_usage {entry : TraceEntry} {now : Time} {name : String}
    (hname : name ∈ usageKeys) (hnodup : (entry.attributes.map (·.1)).Nodup)
    (hrun : (db.runs.one? fun r => r.organizationId = organizationId ∧ r.runId = runId).isSome)
    (h : appendTraceEvent db organizationId runId entry now = .ok after)
    (org : OrganizationId) (run : RunId) :
    usage after.traces org run name = usage db.traces org run name +
      if organizationId = org ∧ runId = run then amount entry.attributes name else 0 := by
  unfold appendTraceEvent at h
  rw [Option.isNone_eq_false_iff.mpr hrun, if_neg Bool.false_ne_true] at h
  dsimp only at h
  split at h
  · cases h
  · obtain ⟨attributes, hchecked, hrest⟩ := ok_of_bind h
    cases hrest
    obtain ⟨fields, rfl, hamount⟩ := amount_safeTraceAttributes hname hnodup hchecked
    rw [← hamount]
    exact usage_append _ _ org run name

theorem appendTraceEvents_usage {entries : List TraceEntry} {now : Time} {name : String}
    (hname : name ∈ usageKeys)
    (hnodup : ∀ entry ∈ entries, (entry.attributes.map (·.1)).Nodup)
    (hrun : (db.runs.one? fun r => r.organizationId = organizationId ∧ r.runId = runId).isSome)
    (h : appendTraceEvents db organizationId runId now entries = .ok after)
    (org : OrganizationId) (run : RunId) :
    usage after.traces org run name = usage db.traces org run name +
      if organizationId = org ∧ runId = run then
        (entries.map fun entry => amount entry.attributes name).sum else 0 := by
  induction entries generalizing db with
  | nil =>
      cases h
      rw [List.map_nil, List.sum_nil, ite_self, Int.add_zero]
  | cons entry rest ih =>
      obtain ⟨mid, hentry, hrest⟩ := ok_of_bind h
      have hfirst := appendTraceEvent_usage hname (hnodup entry List.mem_cons_self) hrun hentry
        org run
      obtain ⟨traces, rfl⟩ := appendTraceEvent_ok hentry
      rw [ih (fun e he => hnodup e (List.mem_cons_of_mem _ he)) (by exact hrun) hrest, hfirst, List.map_cons,
        List.sum_cons]
      split <;> omega

/-- The item's run is over. -/
def Ended (db : Db) (item : WorkItem) : Prop :=
  ∃ r ∈ db.runs.rows, r.organizationId = item.organizationId ∧ r.runId = item.runId ∧
    r.status.terminal

omit [Sha256] in
/-- The table of `_terminal_failure` misses one reason. -/
theorem terminalFailure_known {r : ProductionRun} (h : r.status = .finishedUngraded ∨
    ∃ reason, r.terminalReason = some reason ∧ reason ≠ .agentFinished) :
    terminalFailure r ≠ none := by
  unfold terminalFailure
  rcases h with hfinished | ⟨reason, hreason, hother⟩
  · rw [if_pos hfinished]
    exact Option.some_ne_none _
  · rw [hreason]
    split
    · exact Option.some_ne_none _
    · cases reason with
      | agentFinished => exact absurd rfl hother
      | _ => exact Option.some_ne_none _

/-- How a run ends with an outcome: its row is over, and its trace goes on with the events of the
outcome. -/
inductive Finished (db after : Db) (item : WorkItem) (outcome : TemporalOutcome)
    (now : Time) : Prop
  | mk {r : ProductionRun} {mid traced : Db} {status : RunStatus} {receipt : Digest}
      {sequence version : Nat} (hr : r ∈ after.runs.rows)
      (horganization : r.organizationId = item.organizationId) (hrunId : r.runId = item.runId)
      (hover : r.status.terminal) (hknown : terminalFailure r ≠ none)
      (hbefore : mid.traces = db.traces)
      (hrun : (mid.runs.one? fun r =>
        r.organizationId = item.organizationId ∧ r.runId = item.runId).isSome)
      (hsequence : 1 ≤ sequence) (hversion : 1 ≤ version)
      (htraced : appendTraceEvents mid item.organizationId item.runId now
        (outcomeEntries item outcome status receipt.hex sequence version) = .ok traced)
      (hafter : after.traces = traced.traces) : Finished db after item outcome now

theorem completeLocked_finished {item : WorkItem} {run : ProductionRun} {outbox : DispatchOutbox}
    {outcome : TemporalOutcome} {now : Time} {reply : Bool} (hr : run ∈ db.runs.rows)
    (horganization : run.organizationId = item.organizationId) (hrunId : run.runId = item.runId)
    (hfence : run.fencingToken = item.fencingToken)
    (h : completeLocked db item run outbox outcome now = .ok (reply, after)) :
    reply = true ∧ Finished db after item outcome now := by
  unfold completeLocked at h
  dsimp only at h
  generalize hsuccess : decide (outcome.result.status = .finishedUngraded) = successful at h
  obtain ⟨db₁, hverify, h⟩ := ok_of_bind h
  have htraces := (startVerifying_keeps rfl).same _ hverify
  obtain ⟨runs, audit₁, r₁, rfl, hfirst, hfixed, hsameFence⟩ :=
    startVerifying_ok hr horganization hrunId hfence hverify
  obtain ⟨db₂, hlease, h⟩ := ok_of_bind h
  obtain ⟨leases, rfl, _⟩ := leaseHistory_ok hlease
  obtain ⟨db₃, hout, h⟩ := ok_of_bind h
  obtain ⟨rfl, _⟩ := Db.updateOutbox_ok hout
  obtain ⟨db₄, hpart, h⟩ := ok_of_bind h
  obtain ⟨rfl, _⟩ := Db.updatePartition_ok hpart
  obtain ⟨⟨sequence, db₅⟩, haudit, h⟩ := ok_of_bind h
  have hsequence := appendAudit_positive haudit
  obtain ⟨audit, rfl⟩ := appendAudit_ok haudit
  dsimp only [setAuditSequence, appendOutcomeTrace] at h
  obtain ⟨db₆, htrace, h⟩ := ok_of_bind h
  obtain ⟨db₇, happroval, h⟩ := ok_of_bind h
  cases h
  have hr₁ : r₁.organizationId = item.organizationId ∧ r₁.runId = item.runId ∧
      r₁.fencingToken = item.fencingToken := by
    have hsame := congrArg ProductionRun.organizationId hfixed
    exact ⟨hsame.trans horganization, hfirst.same_key.trans hrunId, hsameFence.trans hfence⟩
  have hended := Table.update_mem hfirst.new_mem
    (p := fun r => r.organizationId = item.organizationId ∧ r.runId = item.runId ∧
      r.fencingToken = item.fencingToken)
    (f := fun r =>
      { r with
        status := if successful then .finishedUngraded else .failed
        version := run.version + if successful then 2 else 1
        finishedAt := some now
        terminalReason := some (if successful then .agentFinished else .agentFailed)
        receiptReference :=
          some (outcome.result.latestCheckpointHash.getD (stableHash outcome.result.json)).hex
        updatedAt := now }) (by simp [hr₁])
  have hlast := Table.update_mem hended
    (p := fun r => r.organizationId = item.organizationId ∧ r.runId = item.runId ∧
      r.fencingToken = item.fencingToken)
    (f := fun r => { r with auditSequence := sequence }) (by simp [hr₁])
  have hpresent := Table.one?_isSome hlast
    (p := fun r => r.organizationId = item.organizationId ∧ r.runId = item.runId) (by simp [hr₁])
  have hversion : 1 ≤ run.version + if successful then 2 else 1 := by split <;> omega
  obtain ⟨traces, rfl⟩ := appendTraceEvents_ok htrace
  obtain ⟨requests, grants, audit₂, rfl⟩ := completeApproval_ok happroval
  refine ⟨rfl, .mk hlast hr₁.1 hr₁.2.1 ?_ ?_ (by exact htraces) (by exact hpresent) hsequence
    hversion htrace rfl⟩
  · show (if successful then RunStatus.finishedUngraded else RunStatus.failed).terminal
    cases successful <;> decide
  · cases successful with
    | false => exact terminalFailure_known (.inr ⟨.agentFailed, rfl, by decide⟩)
    | true => exact terminalFailure_known (.inl rfl)

/-- A completed run is over, and its trace reports the usage of the outcome twice. -/
theorem Finished.accounts {item : WorkItem} {outcome : TemporalOutcome} {now : Time}
    (h : Finished db after item outcome now) : Ended after item ∧
    ∀ name ∈ usageKeys, ∀ org run, usage after.traces org run name = usage db.traces org run name +
      if item.organizationId = org ∧ item.runId = run then 2 * (outcome.reported name : Int)
      else 0 := by
  obtain ⟨hr, horganization, hrunId, hover, _, hbefore, hrun, _, _, htraced, hafter⟩ := h
  refine ⟨⟨_, hr, horganization, hrunId, hover⟩, fun name hname org run => ?_⟩
  have hsum := appendTraceEvents_usage hname (fun entry hentry => outcomeEntries_nodup hentry)
    hrun htraced org run
  rw [outcomeEntries_amount hname, ← hafter, hbefore] at hsum
  exact hsum

/-- How `complete` leaves the trace of the item's run. -/
inductive Completed (db after : Db) (item : WorkItem) (outcome : TemporalOutcome)
    (now : Time) : Bool → Prop
  /-- The binding is valid, and the outcome is recorded. -/
  | finished {run : ProductionRun} (hr : run ∈ db.runs.rows)
      (horganization : run.organizationId = item.organizationId)
      (hrunId : run.runId = item.runId) (hopen : ¬ run.status.terminal)
      (hvalid : bindingValid db item now false = true)
      (hfinished : Finished db after item outcome now) : Completed db after item outcome now true
  /-- The binding is not valid, and the run fails. -/
  | refused {run run' : ProductionRun} (hr : run ∈ db.runs.rows)
      (horganization : run.organizationId = item.organizationId)
      (hrunId : run.runId = item.runId) (hopen : ¬ run.status.terminal)
      (hinvalid : ¬ bindingValid db item now false = true) (hr' : run' ∈ after.runs.rows)
      (horganization' : run'.organizationId = item.organizationId)
      (hrunId' : run'.runId = item.runId) (hover : run'.status.terminal)
      (hknown : terminalFailure run' ≠ none)
      (hgrows : Grows TraceEntry.Plain db.traces after.traces) :
      Completed db after item outcome now true
  /-- The lease is stale. -/
  | stale (hgrows : Grows TraceEntry.Plain db.traces after.traces) :
      Completed db after item outcome now false

theorem complete_completed {w : Repository} {item : WorkItem} {outcome : TemporalOutcome}
    {now : Time} {reply : Bool} (hc : db.Consistent) (hi : Issued db item)
    (h : complete w item outcome now db = .ok (reply, after)) :
    Completed db after item outcome now reply := by
  unfold complete at h
  dsimp only at h
  split at h
  · next outbox run houtbox hrun =>
      have ho := Table.one?_mem houtbox
      have hr := Table.one?_mem hrun
      obtain ⟨_, hid, hstatus, _⟩ := of_decide_eq_true ho.2
      obtain ⟨horganization, hrunId, hrunning, _, hfence⟩ := of_decide_eq_true hr.2
      have hor := hi.coupled hc ho.1 hr.1 hid hrunId
      have hopen : ¬ run.status.terminal := by
        rw [hrunning]
        decide
      split at h
      · next hinvalid =>
          have hreply := failLocked_reply h
          have hgrows := (failLocked_writes (hc.attempts _ ho.1)).grows _ h
          obtain ⟨mid, o', r', hmove, ⟨hfailed, hreason⟩, _, happroval⟩ :=
            failLocked_ok hr.1 ho.1 hor (.inr (.inr hstatus)) h
          obtain ⟨requests, grants, audit, rfl⟩ := failApproval_ok happroval
          have hsame := congrArg ProductionRun.organizationId hmove.run_fixed
          rw [hreply]
          refine .refused hr.1 horganization hrunId hopen hinvalid hmove.runs.new_mem
            (hsame.trans horganization) (hmove.runs.same_key.trans hrunId) ?_
            (terminalFailure_known (.inr ⟨_, hreason, by decide⟩)) hgrows
          rw [hfailed]
          decide
      · next hvalid =>
          obtain ⟨rfl, hfinished⟩ := completeLocked_finished hr.1 horganization hrunId hfence h
          exact .finished hr.1 horganization hrunId hopen (not_not.mp hvalid) hfinished
  · have hreply : reply = false := by
      obtain ⟨mid, _, hrest⟩ := ok_of_bind h
      cases hrest
      rfl
    rw [hreply]
    exact .stale ((stale_writes hi.ownRow).grows _ h)

/-- What a `complete` does to the accounts: it ends its run, with or without its usage, or
leaves everything as it is. -/
inductive Accounted (db after : Db) (item : WorkItem) (outcome : TemporalOutcome) : Bool → Prop
  | completed {run : ProductionRun} (hr : run ∈ db.runs.rows)
      (horganization : run.organizationId = item.organizationId)
      (hrunId : run.runId = item.runId) (hopen : ¬ run.status.terminal)
      (hended : Ended after item)
      (husage : ∀ name ∈ usageKeys, ∀ org run,
        usage after.traces org run name = usage db.traces org run name +
          if item.organizationId = org ∧ item.runId = run then 2 * (outcome.reported name : Int)
          else 0) : Accounted db after item outcome true
  | failed {run : ProductionRun} (hr : run ∈ db.runs.rows)
      (horganization : run.organizationId = item.organizationId)
      (hrunId : run.runId = item.runId) (hopen : ¬ run.status.terminal)
      (hended : Ended after item)
      (husage : ∀ name ∈ usageKeys, ∀ org run,
        usage after.traces org run name = usage db.traces org run name) :
      Accounted db after item outcome true
  | stale (husage : ∀ name ∈ usageKeys, ∀ org run,
        usage after.traces org run name = usage db.traces org run name) :
      Accounted db after item outcome false

theorem complete_accounted {w : Repository} {item : WorkItem} {outcome : TemporalOutcome}
    {now : Time} {reply : Bool} (hc : db.Consistent) (hi : Issued db item)
    (h : complete w item outcome now db = .ok (reply, after)) :
    Accounted db after item outcome reply := by
  cases complete_completed hc hi h with
  | finished hr horganization hrunId hopen _ hfinished =>
      obtain ⟨hended, husage⟩ := hfinished.accounts
      exact .completed hr horganization hrunId hopen hended husage
  | refused hr horganization hrunId hopen _ hr' horganization' hrunId' hover _ hgrows =>
      exact .failed hr horganization hrunId hopen ⟨_, hr', horganization', hrunId', hover⟩
        fun name hname => hgrows.usage hname
  | stale hgrows => exact .stale fun name hname => hgrows.usage hname

end

end Worker

/-! ## Runs of the services -/

section

variable [Sha256]

/-- Nothing is accounted to a run that is not over. -/
def Db.Unbilled (db : Db) : Prop :=
  ∀ organizationId runId, (∀ r ∈ db.runs.rows, r.organizationId = organizationId →
    r.runId = runId → ¬ r.status.terminal) →
  ∀ name ∈ usageKeys, usage db.traces organizationId runId name = 0

/-- The accounts of one run are as they were, because the run is over or the step adds to another
run, unless the step completes this run. -/
theorem World.Step.accounts {world next : World} (hv : world.Valid) (h : World.Step world next)
    (organizationId : OrganizationId) (runId : RunId) :
    (∀ name ∈ usageKeys, usage next.plane.db.traces organizationId runId name =
      usage world.plane.db.traces organizationId runId name) ∨
    (∃ r ∈ world.plane.db.runs.rows, r.organizationId = organizationId ∧ r.runId = runId ∧
      ¬ r.status.terminal) ∧
    ∃ r ∈ next.plane.db.runs.rows, r.organizationId = organizationId ∧ r.runId = runId ∧
      r.status.terminal := by
  cases h with
  | @call c reply plane hitem hcommit =>
      cases hcomplete : c.isComplete with
      | false =>
          have hgrows := Call.commit_plain
            (fun item h => (hv.issued item (hitem item h)).ownRow) hv.consistent.attempts hcomplete
            hcommit
          exact .inl fun name hname => hgrows.usage hname organizationId runId
      | true =>
          cases c with
          | complete w item outcome now =>
              obtain ⟨result, db, hbody, _, rfl⟩ := onDb_ok hcommit
              have hi := hv.issued item (hitem item rfl)
              cases Worker.complete_accounted hv.consistent hi hbody with
              | completed hr horganization hrunId hopen hended husage =>
                  by_cases hsame : item.organizationId = organizationId ∧ item.runId = runId
                  · obtain ⟨rfl, rfl⟩ := hsame
                    exact .inr ⟨⟨_, hr, horganization, hrunId, hopen⟩, hended⟩
                  · refine .inl fun name hname => ?_
                    have htotal := husage name hname organizationId runId
                    rw [if_neg hsame, Int.add_zero] at htotal
                    exact htotal
              | failed _ _ _ _ _ husage => exact .inl fun name hname => husage name hname _ _
              | stale husage => exact .inl fun name hname => husage name hname _ _
          | _ => cases hcomplete
  | approvals h =>
      refine .inl fun name _ => ?_
      rw [show (world.after none _).plane.db.traces = world.plane.db.traces from h.traces]

theorem World.Step.unbilled {world next : World} (hv : world.Valid)
    (hunbilled : world.plane.db.Unbilled) (h : World.Step world next) :
    next.plane.db.Unbilled := by
  intro organizationId runId hopen name hname
  rcases h.accounts hv organizationId runId with hsame | ⟨_, r, hr, horganization, hrunId, hover⟩
  · rw [hsame name hname]
    refine hunbilled organizationId runId ?_ name hname
    intro r hr horganization hrunId hover
    exact hopen r ((h.tables hv).run_frozen hr hover) horganization hrunId hover
  · exact absurd hover (hopen r hr horganization hrunId)

/-- The accounts of a run that is over are closed. -/
theorem World.Step.closed {world next : World} (hv : world.Valid) (h : World.Step world next)
    {r : ProductionRun} (hr : r ∈ world.plane.db.runs.rows) (hover : r.status.terminal)
    {name : String} (hname : name ∈ usageKeys) :
    usage next.plane.db.traces r.organizationId r.runId name =
      usage world.plane.db.traces r.organizationId r.runId name := by
  rcases h.accounts hv r.organizationId r.runId with hsame | ⟨⟨s, hs, _, hid, hopen⟩, _⟩
  · exact hsame name hname
  · rw [Table.eq_of_key hs hr hid] at hopen
    exact absurd hover hopen

theorem World.unbilled_of_run {world next : World} (hv : world.Valid)
    (hunbilled : world.plane.db.Unbilled) (hrun : ReflTransGen World.Step world next) :
    next.plane.db.Unbilled :=
  (invariant_of_run (I := fun w : World => w.Valid ∧ w.plane.db.Unbilled)
    (fun _ _ hs hstep => ⟨hstep.valid hs.1, hstep.unbilled hs.1 hs.2⟩) ⟨hv, hunbilled⟩ hrun).2

theorem World.closed_of_run {world next : World} (hv : world.Valid) {r : ProductionRun}
    (hr : r ∈ world.plane.db.runs.rows) (hover : r.status.terminal)
    (hrun : ReflTransGen World.Step world next) {name : String} (hname : name ∈ usageKeys) :
    usage next.plane.db.traces r.organizationId r.runId name =
      usage world.plane.db.traces r.organizationId r.runId name := by
  have hall := invariant_of_run (I := fun w : World => w.Valid ∧ r ∈ w.plane.db.runs.rows ∧
    usage w.plane.db.traces r.organizationId r.runId name =
      usage world.plane.db.traces r.organizationId r.runId name)
    (fun _ _ hs hstep => ⟨hstep.valid hs.1, (hstep.tables hs.1).run_frozen hs.2.1 hover,
      (hstep.closed hs.1 hs.2.1 hover hname).trans hs.2.2⟩) ⟨hv, hr, rfl⟩ hrun
  exact hall.2.2

/-! ## The export -/

theorem Grows.bounded {Q : TraceEntry → Prop} {traces after : List ObservabilityEvent}
    (h : Grows Q traces after)
    (hbounded : ∀ organizationId runId, traceCount traces organizationId runId ≤ 256) :
    ∀ organizationId runId, traceCount after organizationId runId ≤ 256 := by
  induction h with
  | refl => exact hbounded
  | tail _ hlast ih =>
      obtain ⟨org, run, entry, attributes, eventId, now, hrec⟩ := hlast
      intro organizationId runId
      rw [hrec.record]
      refine Nat.le_trans (traceCount_append _ _ _ _) (Nat.max_le.mpr ⟨ih _ _, ?_⟩)
      exact hrec.bound

theorem World.bounded_of_run {world next : World} (hv : world.Valid)
    (hbounded : ∀ organizationId runId,
      traceCount world.plane.db.traces organizationId runId ≤ 256)
    (hrun : ReflTransGen World.Step world next) :
    ∀ organizationId runId, traceCount next.plane.db.traces organizationId runId ≤ 256 :=
  (invariant_of_run (I := fun w : World => w.Valid ∧ ∀ organizationId runId,
      traceCount w.plane.db.traces organizationId runId ≤ 256)
    (fun _ _ hs hstep => ⟨hstep.valid hs.1, (hstep.grows hs.1).bounded hs.2⟩) ⟨hv, hbounded⟩
    hrun).2

omit [Sha256] in
/-- The query of an export returns the events of the run in the order of their writing. -/
theorem eventRows_of_wellTraced {db : Db} {organizationId : OrganizationId} {runId : RunId}
    (hwell : WellTraced db.traces organizationId runId)
    (hbounded : traceCount db.traces organizationId runId ≤ 256) :
    Control.eventRows db organizationId runId = tracesOf db.traces organizationId runId := by
  unfold traceCount at hbounded
  rw [lastEventSequence_range hwell.sequences] at hbounded
  have hsorted : ((tracesOf db.traces organizationId runId).map (·.eventSequence)).Pairwise
      (· ≤ ·) := by
    rw [hwell.sequences]
    exact List.pairwise_le_range'
  rw [List.pairwise_map] at hsorted
  unfold Control.eventRows
  rw [show runTraces db organizationId runId = tracesOf db.traces organizationId runId from rfl,
    hsorted.insertionSort_eq, List.take_of_length_le hbounded]

omit [Sha256] in
theorem eventRead_ok {event : ObservabilityEvent} {read : Control.EventRead}
    (h : Control.eventRead event = .ok read) : ∃ fields, event.attributesJson = .obj fields ∧
      read.attributes = Control.validatedFields fields := by
  unfold Control.eventRead at h
  split at h
  · next hattributes =>
      split at h
      · cases h
        exact ⟨_, hattributes, rfl⟩
      · cases h
  · cases h

omit [Sha256] in
theorem readEvents_total {rows : List ObservabilityEvent} {events : List Control.EventRead}
    (h : Control.readEvents rows = .ok events) (name : String) :
    Control.total events name = (rows.map (·.amount name)).sum := by
  induction rows generalizing events with
  | nil =>
      cases h
      rfl
  | cons row rest ih =>
      obtain ⟨event, hevent, h⟩ := ok_of_bind h
      obtain ⟨others, hothers, h⟩ := ok_of_bind h
      cases h
      have hamount : amount event.attributes name = row.amount name := by
        obtain ⟨fields, hfields, hvalidated⟩ := eventRead_ok hevent
        unfold ObservabilityEvent.amount
        rw [hfields, hvalidated, amount_validated]
      rw [List.map_cons, List.sum_cons, ← ih hothers, ← hamount]
      rfl

/-- The totals of an export are the sums over the events of its run. -/
theorem exported_cost {db : Db} {run : ProductionRun} {exported : RunTraceExport}
    (hwell : WellTraced db.traces run.organizationId run.runId)
    (hbounded : traceCount db.traces run.organizationId run.runId ≤ 256)
    (h : buildRunTraceExport db run = .ok exported) :
    exported.cost =
      { modelCalls := usage db.traces run.organizationId run.runId "model_calls"
        inputTokens := usage db.traces run.organizationId run.runId "input_tokens"
        outputTokens := usage db.traces run.organizationId run.runId "output_tokens"
        fakeCostMicrousd :=
          usage db.traces run.organizationId run.runId "fake_cost_microusd" } := by
  unfold buildRunTraceExport at h
  obtain ⟨events, hevents, h⟩ := ok_of_bind h
  have htotal : ∀ name, Control.total events name =
      usage db.traces run.organizationId run.runId name := by
    intro name
    unfold Control.listObservabilityEvents at hevents
    obtain ⟨read, hread, hrest⟩ := ok_of_bind hevents
    split at hrest
    · cases hrest
      rw [readEvents_total hread, eventRows_of_wellTraced hwell hbounded]
      rfl
    · cases hrest
  dsimp only at h
  split at h
  · cases h
  · split at h
    · cases h
    · split at h
      · cases h
      · cases h
        simp only [htotal]

/-- The usage that an outcome reports, as a cost summary. -/
def Worker.TemporalOutcome.reportedCost (outcome : TemporalOutcome) : Control.CostSummary where
  modelCalls := outcome.reported "model_calls"
  inputTokens := outcome.reported "input_tokens"
  outputTokens := outcome.reported "output_tokens"
  fakeCostMicrousd := outcome.reported "fake_cost_microusd"

/-- When `complete` has ended a run, every later export of its trace has the totals that the
outcome reports exactly when it reports none. -/
theorem exported_cost_iff (directory : Directory) (authorities : Table ApprovalAuthority)
    (heads : Table AuditChainHead) (world : World)
    (hrun : ReflTransGen World.Step (World.start directory authorities heads) world)
    (w : Repository) (item : WorkItem) (outcome : TemporalOutcome) (now : Time) (db : Db)
    (hitem : item ∈ world.items)
    (hcomplete : Worker.complete w item outcome now world.plane.db = .ok (true, db))
    (later : World)
    (hlater : ReflTransGen World.Step (world.after none { world.plane with db := db }) later)
    (run : ProductionRun)
    (hids : run.organizationId = item.organizationId ∧ run.runId = item.runId)
    (exported : RunTraceExport)
    (hexported : buildRunTraceExport later.plane.db run = .ok exported) :
    exported.cost = outcome.reportedCost ↔ outcome.reportedCost = ⟨0, 0, 0, 0⟩ := by
  have hstart := World.valid_start directory authorities heads
  have hv := World.valid_of_run hstart hrun
  have hstep : World.Step world (world.after none { world.plane with db := db }) := by
    refine .call (c := .complete w item outcome now) ?_ ?_
    · intro i hi
      cases hi
      exact hitem
    · show onDb world.plane (fun _ => none) _ = _
      rw [hcomplete]
      rfl
  have hafter := hstep.valid hv
  have hall := (hrun.tail hstep).trans hlater
  have hwell := World.wellTraced_of_run hstart (fun _ _ => ⟨rfl, by intro e he; cases he⟩) hall
  have hbounded := World.bounded_of_run hstart (fun _ _ => Nat.zero_le 256) hall
  have hunbilled := World.unbilled_of_run hstart (fun _ _ _ _ _ => rfl) hrun
  -- nothing before the step, twice the outcome or nothing in it, and nothing after it
  have htotal : ∃ k : Int, k ≠ 1 ∧ ∀ name ∈ usageKeys,
      usage later.plane.db.traces item.organizationId item.runId name =
        k * outcome.reported name := by
    have hbefore : ∀ {r : ProductionRun}, r ∈ world.plane.db.runs.rows →
        r.runId = item.runId → ¬ r.status.terminal → ∀ name ∈ usageKeys,
        usage world.plane.db.traces item.organizationId item.runId name = 0 := by
      intro r hr hrunId hopen
      refine hunbilled _ _ fun s hs _ hsame hover => ?_
      rw [Table.eq_of_key hs hr (hsame.trans hrunId.symm)] at hover
      exact hopen hover
    have hclosed : Worker.Ended db item → ∀ name ∈ usageKeys,
        usage later.plane.db.traces item.organizationId item.runId name =
          usage db.traces item.organizationId item.runId name := by
      rintro ⟨r, hr, horganization, hrunId, hover⟩ name hname
      rw [← horganization, ← hrunId]
      exact World.closed_of_run hafter hr hover hlater hname
    cases Worker.complete_accounted hv.consistent (hv.issued item hitem) hcomplete with
    | completed hr _ hrunId hopen hended husage =>
        refine ⟨2, by decide, fun name hname => ?_⟩
        rw [hclosed hended name hname, husage name hname, hbefore hr hrunId hopen name hname,
          if_pos ⟨rfl, rfl⟩, Int.zero_add]
    | failed hr _ hrunId hopen hended husage =>
        refine ⟨0, by decide, fun name hname => ?_⟩
        rw [hclosed hended name hname, husage name hname, hbefore hr hrunId hopen name hname,
          Int.zero_mul]
  obtain ⟨k, hk, htotal⟩ := htotal
  have hcost := exported_cost (hwell _ _) (hbounded _ _) hexported
  rw [hids.1, hids.2, htotal _ (by decide), htotal _ (by decide), htotal _ (by decide),
    htotal _ (by decide)] at hcost
  have hfixed : ∀ n : Nat, k * (n : Int) = n ↔ (n : Int) = 0 := by
    intro n
    constructor
    · intro h
      have hzero : (k - 1) * (n : Int) = 0 := by
        rw [Int.sub_mul, h, Int.one_mul, Int.sub_self]
      rcases Int.mul_eq_zero.mp hzero with hone | hn
      · exact absurd (by omega) hk
      · exact hn
    · intro h
      rw [h, Int.mul_zero]
  rw [hcost]
  unfold Worker.TemporalOutcome.reportedCost
  rw [Control.CostSummary.mk.injEq, Control.CostSummary.mk.injEq, hfixed, hfixed, hfixed, hfixed]

end

end FlowPilot
