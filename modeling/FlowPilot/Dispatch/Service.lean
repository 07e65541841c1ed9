import FlowPilot.Dispatch.Abstraction
import FlowPilot.Dispatch.ControlSteps
import FlowPilot.Dispatch.Counting
import FlowPilot.Dispatch.WorkerSteps

/-!
# The two services as one transition system

A call is one operation of either service with the unlocked reads it acts on.  A call commits in
one step, because it holds the locks of the rows it decides on until it commits; its unlocked
reads are arbitrary here, so that every interleaving of reads and commits is covered.  The
approval operations and the directory are the environment.
-/

open Relation FlowPilot.Lib FlowPilot.Lib.FencedQueue

namespace FlowPilot

open Control (Admission RunClaimReads ActorContext Plane Outcome)
open Worker (WorkItem Repository Locked TemporalOutcome Issued)

/-- An operation with its arguments and its unlocked reads. -/
inductive Call where
  | admitRun (a : Admission) (visible : List OrganizationId)
  | claimRun (actor : ActorContext) (organizationId : OrganizationId) (runId : RunId)
      (expectedVersion : Nat) (now : Time) (reads : RunClaimReads)
  | cancel (actor : ActorContext) (organizationId : OrganizationId) (runId : RunId)
      (expectedVersion : Nat) (now : Time) (current : Option ProductionRun)
  | claimNext (w : Repository) (locked : Locked) (now : Time)
  | markStarted (w : Repository) (item : WorkItem) (now : Time)
  | heartbeat (w : Repository) (item : WorkItem) (now : Time)
  | recordDeduplicated (w : Repository) (item : WorkItem) (now : Time)
  | complete (w : Repository) (item : WorkItem) (outcome : TemporalOutcome) (now : Time)
  | fail (w : Repository) (item : WorkItem) (reason : TerminalReason) (now : Time)
  | release (w : Repository) (item : WorkItem) (now : Time)

/-- The work item that a call is made with. -/
def Call.item? : Call → Option WorkItem
  | .markStarted _ item _ | .heartbeat _ item _ | .recordDeduplicated _ item _
  | .complete _ item _ _ | .fail _ item _ _ | .release _ item _ => some item
  | _ => none

/-- A worker's transaction on the database of the plane. -/
def onDb {α : Type} (plane : Plane) (issue : α → Option WorkItem)
    (body : Except Failure (α × Db)) : Except Failure (Option WorkItem × Plane) :=
  match body with
  | .error failure => .error failure
  | .ok (reply, db) => .ok (issue reply, { plane with db := db })

/-- A transaction of the Control API. -/
def onPlane {α : Type} (body : Except Failure (Outcome α)) :
    Except Failure (Option WorkItem × Plane) :=
  match body with
  | .error failure => .error failure
  | .ok (_, plane) => .ok (none, plane)

variable [Sha256]

/-- What a call commits, with the work item that it hands out; an error is a rollback. -/
def Call.commit (plane : Plane) : Call → Except Failure (Option WorkItem × Plane)
  | .admitRun a visible => onPlane (Control.admitLocked a visible plane)
  | .claimRun actor organizationId runId expectedVersion now reads =>
    onPlane
      (Control.claimProductionRun actor organizationId runId expectedVersion now reads plane)
  | .cancel actor organizationId runId expectedVersion now current =>
    onPlane
      (Control.cancelProductionRun actor organizationId runId expectedVersion now current plane)
  | .claimNext w locked now => onDb plane id (Worker.claimNext w locked now plane.db)
  | .markStarted w item now => onDb plane (fun _ => none) (Worker.markStarted w item now plane.db)
  | .heartbeat _ item now => onDb plane (fun _ => none) (Worker.heartbeat item now plane.db)
  | .recordDeduplicated _ item now =>
    onDb plane (fun _ => none) (Worker.recordDeduplicated item now plane.db)
  | .complete w item outcome now =>
    onDb plane (fun _ => none) (Worker.complete w item outcome now plane.db)
  | .fail w item reason now => onDb plane (fun _ => none) (Worker.fail w item reason now plane.db)
  | .release _ item now => onDb plane (fun _ => none) (Worker.release item now plane.db)

/-- What the method of a call with a work item answers, if it does not raise. -/
def Call.answer? (db : Db) : Call → Option Bool
  | .markStarted w item now => (Worker.markStarted w item now db).toOption.map (·.1)
  | .heartbeat _ item now => (Worker.heartbeat item now db).toOption.map (·.1)
  | .recordDeduplicated _ item now => (Worker.recordDeduplicated item now db).toOption.map (·.1)
  | .complete w item outcome now => (Worker.complete w item outcome now db).toOption.map (·.1)
  | .fail w item reason now => (Worker.fail w item reason now db).toOption.map (·.1)
  | .release _ item now => (Worker.release item now db).toOption.map (·.1)
  | .admitRun .. | .claimRun .. | .cancel .. | .claimNext .. => none

omit [Sha256] in
theorem onDb_ok {α : Type} {plane after : Plane} {issue : α → Option WorkItem}
    {body : Except Failure (α × Db)} {reply : Option WorkItem}
    (h : onDb plane issue body = .ok (reply, after)) :
    ∃ a db, body = .ok (a, db) ∧ reply = issue a ∧ after = { plane with db := db } := by
  unfold onDb at h
  split at h
  · cases h
  · cases h
    exact ⟨_, _, rfl, rfl, rfl⟩

omit [Sha256] in
theorem onPlane_ok {α : Type} {after : Plane} {body : Except Failure (Outcome α)}
    {reply : Option WorkItem} (h : onPlane body = .ok (reply, after)) :
    ∃ result, body = .ok (result, after) ∧ reply = none := by
  unfold onPlane at h
  split at h
  · cases h
  · cases h
    exact ⟨_, rfl, rfl⟩

/-! ## Every call is a step of the dispatch tables -/

theorem Call.commit_worked {c : Call} {item : WorkItem} {plane after : Plane}
    {reply : Option WorkItem} (hc : plane.db.Consistent) (hitem : c.item? = some item)
    (hi : Issued plane.db item) (h : c.commit plane = .ok (reply, after)) :
    reply = none ∧ ∃ w, Worker.Worked w item plane.db after.db := by
  cases c <;> cases hitem <;> rcases onDb_ok h with ⟨a, db, hbody, rfl, rfl⟩
  case markStarted w now => exact ⟨rfl, w, Worker.markStarted_ok hc hi hbody⟩
  case heartbeat w now => exact ⟨rfl, w, Worker.heartbeat_ok hc hi hbody⟩
  case recordDeduplicated w now => exact ⟨rfl, w, .logged (Worker.recordDeduplicated_ok hbody)⟩
  case complete w outcome now => exact ⟨rfl, w, Worker.complete_ok hc hi hbody⟩
  case fail w reason now => exact ⟨rfl, w, Worker.fail_ok hc hi hbody⟩
  case release w now => exact ⟨rfl, w, Worker.release_ok hc hi hbody⟩

/-- A call that hands out a work item is a `claim_next`. -/
theorem Call.commit_reply {c : Call} {plane after : Plane} {item : WorkItem}
    (h : c.commit plane = .ok (some item, after)) :
    ∃ w locked now db, Worker.claimNext w locked now plane.db = .ok (some item, db) ∧
      after = { plane with db := db } := by
  cases c
  case claimNext w locked now =>
    rcases onDb_ok h with ⟨a, db, hbody, hreply, rfl⟩
    cases hreply
    exact ⟨w, locked, now, db, hbody, rfl⟩
  case admitRun => rcases onPlane_ok h with ⟨_, _, hreply⟩; cases hreply
  case claimRun => rcases onPlane_ok h with ⟨_, _, hreply⟩; cases hreply
  case cancel => rcases onPlane_ok h with ⟨_, _, hreply⟩; cases hreply
  all_goals
    rcases onDb_ok h with ⟨_, _, _, hreply, _⟩
    cases hreply

theorem Call.commit_claimed {c : Call} {plane after : Plane} {item : WorkItem}
    (hc : plane.db.Consistent) (h : c.commit plane = .ok (some item, after)) :
    ∃ w, Worker.Claimed w plane.db after.db (some item) := by
  rcases c.commit_reply h with ⟨w, locked, now, db, hbody, rfl⟩
  exact ⟨w, Worker.claimNext_ok hc hbody⟩

theorem Call.commit_step {c : Call} {plane after : Plane} {reply : Option WorkItem}
    (hc : plane.db.Consistent) (hitem : ∀ item, c.item? = some item → Issued plane.db item)
    (h : c.commit plane = .ok (reply, after)) : Db.Step plane.db after.db := by
  cases hkind : c.item? with
  | some item =>
      rcases c.commit_worked hc hkind (hitem item hkind) h with ⟨_, w, hworked⟩
      exact hworked.step
  | none =>
      cases c <;> cases hkind
      case none.admitRun.refl =>
        rcases onPlane_ok h with ⟨result, hbody, _⟩
        exact (Control.admitLocked_ok hc hbody).step
      case none.claimRun.refl =>
        rcases onPlane_ok h with ⟨result, hbody, _⟩
        exact (Control.claimProductionRun_ok hc hbody).step
      case none.cancel.refl =>
        rcases onPlane_ok h with ⟨result, hbody, _⟩
        exact (Control.cancelProductionRun_ok hc hbody).step
      case none.claimNext.refl =>
        rcases onDb_ok h with ⟨a, db, hbody, _, rfl⟩
        exact (Worker.claimNext_ok hc hbody).step

/-! ## Issued items stay issued -/

omit [Sha256] in
theorem Issued.step {db after : Db} {item : WorkItem} (hc : db.Consistent)
    (hstep : Db.Step db after) (hi : Issued db item) : Issued after item := by
  rcases hi with ⟨x, hx, s, hs, hissued⟩
  have hxs := hc.coupled_run hx hs hissued.run
  cases hstep with
  | quiet h => exact ⟨x, by rwa [h.outbox], s, by rwa [h.runs], hissued⟩
  | @move o o' r r' h =>
      by_cases hkey : x.outboxId = o.outboxId
      · have hxo : x = o := Table.eq_of_key hx h.outbox.mem hkey
        have hsr : s = r := Table.eq_of_key hs h.runs.mem
          (hissued.run.symm.trans (hxo ▸ h.before.run))
        subst hxo hsr
        exact ⟨o', h.outbox.new_mem, r', h.runs.new_mem,
          { run := h.coupled.run
            terms := by
              rw [Worker.workItem_fixed h.run_fixed h.outbox_fixed]
              exact hissued.terms
            positive := hissued.positive
            fence := Nat.le_trans hissued.fence h.fence_le }⟩
      · refine ⟨x, h.outbox.mem_iff.mpr (.inr ⟨hx, hkey⟩), s, h.runs.mem_iff.mpr (.inr ⟨hs, ?_⟩),
          hissued⟩
        intro hsr
        have hrun : x.runId = o.runId := by
          rw [hissued.run, h.before.run]
          exact hsr
        rw [hc.single x hx o h.outbox.mem hrun] at hkey
        exact hkey rfl
  | enqueue h =>
      rcases h.outbox with ⟨hfresh, hins⟩
      refine ⟨x, ?_, s, h.run_kept hs hxs, hissued⟩
      rw [hins]
      exact (Table.mem_insert hfresh).mpr (.inl hx)
  | await h =>
      rcases h.runs with ⟨hfresh, hins⟩
      refine ⟨x, by rwa [h.outbox], s, ?_, hissued⟩
      rw [hins]
      exact (Table.mem_insert hfresh).mpr (.inl hs)
  | withdraw h =>
      refine ⟨x, by rwa [h.outbox], s, h.runs.mem_iff.mpr (.inr ⟨hs, ?_⟩), hissued⟩
      exact Db.ne_waiting hxs h.waiting h.runs.mem hs

/-! ## Runs of the services -/

/-- The control plane, the work items handed out so far, and the terminal effects so far. -/
structure World where
  plane : Plane
  items : List WorkItem
  effects : List (RunId × RunStatus)

/-- An empty store. -/
def World.start (directory : Directory) (authorities : Table ApprovalAuthority)
    (heads : Table AuditChainHead) : World where
  plane := ⟨Db.initial directory authorities heads, ⟨[]⟩⟩
  items := []
  effects := []

def World.after (world : World) (reply : Option WorkItem) (plane : Plane) : World where
  plane := plane
  items := world.items ++ reply.toList
  effects := world.effects ++ Db.terminalEffects world.plane.db plane.db

/-- The environment: approvals, decisions, grants and the directory change, no request that
exists goes away, and no run is traced. -/
structure ApprovalsOnly (db after : Db) : Prop extends Db.SameQueue db after where
  idempotency : after.idempotency = db.idempotency
  traces : after.traces = db.traces
  requests : ∀ k, (db.requests.get? k).isSome → (after.requests.get? k).isSome

inductive World.Step : World → World → Prop where
  | call {world : World} {c : Call} {reply : Option WorkItem} {plane : Plane}
      (hitem : ∀ item, c.item? = some item → item ∈ world.items)
      (hcommit : c.commit world.plane = .ok (reply, plane)) :
      Step world (world.after reply plane)
  | approvals {world : World} {plane : Plane} (h : ApprovalsOnly world.plane.db plane.db) :
      Step world (world.after none plane)

structure World.Valid (world : World) : Prop where
  consistent : world.plane.db.Consistent
  issued : ∀ item ∈ world.items, Issued world.plane.db item
  ledger : Ledger world.plane.db.queue world.effects

omit [Sha256] in
theorem World.valid_start (directory : Directory) (authorities : Table ApprovalAuthority)
    (heads : Table AuditChainHead) : (World.start directory authorities heads).Valid where
  consistent := Db.Consistent.initial directory authorities heads
  issued := by
    intro item hitem
    cases hitem
  ledger := fun _ => rfl

omit [Sha256] in
/-- The step lemma: one step of the tables, and what it adds to items and effects. -/
theorem World.Valid.after {world : World} {plane : Plane} {reply : Option WorkItem}
    (hv : world.Valid) (hstep : Db.Step world.plane.db plane.db)
    (hreply : ∀ item, reply = some item → Issued plane.db item) :
    (world.after reply plane).Valid where
  consistent := hstep.consistent hv.consistent
  issued := by
    intro item hitem
    rcases List.mem_append.mp hitem with hold | hnew
    · exact Issued.step hv.consistent hstep (hv.issued item hold)
    · exact hreply item (Option.mem_toList.mp hnew)
  ledger := hv.ledger.next hstep.queue_next hstep.entries

theorem World.Step.tables {world next : World} (hv : world.Valid)
    (hstep : World.Step world next) : Db.Step world.plane.db next.plane.db := by
  cases hstep with
  | call hitem hcommit =>
      exact Call.commit_step hv.consistent (fun item h => hv.issued item (hitem item h)) hcommit
  | approvals h => exact .quiet h.toSameQueue.quiet

theorem World.Step.valid {world next : World} (hv : world.Valid)
    (hstep : World.Step world next) : next.Valid := by
  have htables := hstep.tables hv
  cases hstep with
  | call hitem hcommit =>
      refine hv.after htables ?_
      intro item hreply
      subst hreply
      rcases Call.commit_claimed hv.consistent hcommit with ⟨w, hclaimed⟩
      cases hclaimed with
      | leased h hleased => exact ⟨_, h.outbox.new_mem, _, h.runs.new_mem, hleased.issued⟩
  | approvals h =>
      refine hv.after htables ?_
      intro item hreply
      cases hreply

theorem World.valid_of_run {world next : World} (hv : world.Valid)
    (hrun : ReflTransGen World.Step world next) : next.Valid :=
  invariant_of_run (fun _ _ hs hstep => hstep.valid hs) hv hrun

theorem World.counted_of_run {world next : World} (hv : world.Valid)
    (hcounted : world.plane.db.Counted) (hrun : ReflTransGen World.Step world next) :
    next.Valid ∧ next.plane.db.Counted :=
  invariant_of_run (I := fun w => w.Valid ∧ w.plane.db.Counted)
    (fun _ _ hs hstep => ⟨hstep.valid hs.1, (hstep.tables hs.1).counted hs.2⟩) ⟨hv, hcounted⟩ hrun

/-! ## One call at a time -/

/-- The unlocked reads of the call are those of the state that it commits on. -/
def Call.ReadsCurrent (plane : Plane) : Call → Prop
  | .admitRun _ visible => visible = Control.partitionKeys plane.db
  | .claimRun _ organizationId runId _ now reads =>
    ∃ payload, reads = Control.runClaimReads organizationId runId payload now plane
  | .cancel _ organizationId runId _ _ current =>
    current = Control.loadRun plane.db organizationId runId
  | _ => True

inductive World.SerialStep : World → World → Prop where
  | call {world : World} {c : Call} {reply : Option WorkItem} {plane : Plane}
      (hreads : c.ReadsCurrent world.plane)
      (hitem : ∀ item, c.item? = some item → item ∈ world.items)
      (hcommit : c.commit world.plane = .ok (reply, plane)) :
      SerialStep world (world.after reply plane)
  | approvals {world : World} {plane : Plane} (h : ApprovalsOnly world.plane.db plane.db) :
      SerialStep world (world.after none plane)

theorem World.SerialStep.step {world next : World} (h : World.SerialStep world next) :
    World.Step world next := by
  cases h with
  | call _ hitem hcommit => exact .call hitem hcommit
  | approvals h => exact .approvals h

/-! ## Concrete runs -/

/-- Performs a call; a rolled back call changes nothing. -/
def World.perform (world : World) (c : Call) : World :=
  match c.commit world.plane with
  | .error _ => world
  | .ok (reply, plane) => world.after reply plane

theorem World.mem_perform {world : World} {c : Call} {item : Worker.WorkItem}
    (h : item ∈ world.items) : item ∈ (world.perform c).items := by
  unfold World.perform
  split
  · exact h
  · exact List.mem_append_left _ h

theorem World.perform_serial {world next : World} {c : Call}
    (hrun : ReflTransGen World.SerialStep world next) (hreads : c.ReadsCurrent next.plane)
    (hitem : ∀ item, c.item? = some item → item ∈ next.items) :
    ReflTransGen World.SerialStep world (next.perform c) := by
  unfold World.perform
  split
  · exact hrun
  next hcommit => exact hrun.tail (.call hreads hitem hcommit)

theorem World.run_of_serial {world next : World}
    (hrun : ReflTransGen World.SerialStep world next) : ReflTransGen World.Step world next :=
  ReflTransGen.mono (fun _ _ h => h.step) _ _ hrun

end FlowPilot

/-! ## A small organization

One organization with an operator, used where a property is shown on a concrete run. -/

namespace FlowPilot.Sample

open Worker (WorkItem Repository)

attribute [local instance] polynomialSha256

def organization : Organization := ⟨⟨1⟩, .active, 1⟩

def operator : User := ⟨⟨1⟩, ⟨1⟩, .active, 1⟩

def directory : Directory where
  organizations := Table.insert .empty organization rfl
  users := Table.insert .empty operator rfl
  identities := Table.insert .empty ⟨⟨1⟩, ⟨1⟩, ⟨1⟩, "issuer", ⟨1⟩, ⟨1⟩, .active, 1⟩ rfl
  memberships := Table.insert .empty ⟨⟨1⟩, ⟨1⟩, ⟨1⟩, .operator, .active, 1⟩ rfl

def heads : Table AuditChainHead :=
  Table.insert .empty ⟨⟨1⟩, 0, ⟨0⟩, 1, 0⟩ rfl

def start : World := World.start directory .empty heads

def actor : Control.ActorContext where
  userId := ⟨1⟩
  organizationId := ⟨1⟩
  role := .operator
  authorizationHash := (Worker.authorizationHash start.plane.db ⟨1⟩ ⟨1⟩).getD ⟨0⟩

def draft : Control.RunCreate where
  taskId := .joiner001v1
  process := .joiner
  category := .joiner
  actionType := "create_draft"
  parameters := [("task_reference", .str "w7-jml-joiner-001-v1")]
  action_ok := by decide
  parameters_ok := by decide +kernel
  binding_ok := rfl

/-- An admission of the draft at time zero. -/
def admission : Control.Admission where
  actor := actor
  organizationId := ⟨1⟩
  payload := draft
  keyHash := stableHashText "idempotency-key-1"
  bodyHash := stableHash draft.json
  evaluation :=
    { actionType := "create_draft"
      riskLevel := .L1
      parameterHash := stableHash (Control.actionBinding "create_draft" draft.parameters)
      validatedParameters := draft.parameters
      requiredRoles := []
      knownAction := true }
  now := 0

def worker : Repository := ⟨stableHashText "worker-1"⟩

def claim (now : Time) : Call := .claimNext worker .nothing now

def admitted : World :=
  start.perform (.admitRun admission [])

def leased : World := admitted.perform (claim second)

theorem leased_run : ReflTransGen World.SerialStep start leased := by
  refine World.perform_serial ?_ trivial ?_
  · refine World.perform_serial .refl ?_ ?_
    · rfl
    · intro item hitem
      cases hitem
  · intro item hitem
    cases hitem

theorem leased_items : leased.items ≠ [] := by decide +kernel

def item : WorkItem := leased.items.head leased_items

theorem item_mem : item ∈ leased.items := by
  unfold item
  exact List.head_mem leased_items

/-- The lease is released and taken again. -/
def releasedAndLeased : World :=
  (leased.perform (.release worker item (2 * second))).perform (claim (3 * second))

theorem releasedAndLeased_run : ReflTransGen World.SerialStep start releasedAndLeased := by
  refine World.perform_serial ?_ trivial ?_
  · refine World.perform_serial leased_run ?_ ?_
    · trivial
    · intro i hi
      rw [← Option.some.inj hi]
      exact item_mem
  · intro item hitem
    cases hitem

end FlowPilot.Sample
