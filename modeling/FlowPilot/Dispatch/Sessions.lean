import FlowPilot.Dispatch.Service
import FlowPilot.Lib.Sessions

/-!
# Interleaved transactions of the Control API

The production operations of the Control API read before they take their locks.  A session is
one of their transactions with the reads it has made; between its reads and its commit any other
transaction of either service can commit.
-/

open Relation FlowPilot.Lib FlowPilot.Lib.Sessions

namespace FlowPilot

open Control (ActorContext Plane Outcome RunCreate RunClaim AdmitReads RunClaimReads)
open Worker (WorkItem)

variable [Sha256]

/-- A production operation under way, with its arguments and its reads. -/
inductive Session where
  | admitRun (actor : ActorContext) (organizationId : OrganizationId) (idempotencyKey : String)
      (payload : RunCreate) (now : Time) (reads : AdmitReads)
  | claimRun (actor : ActorContext) (organizationId : OrganizationId) (runId : RunId)
      (expectedVersion : Nat) (payload : RunClaim) (now : Time) (reads : RunClaimReads)
  | cancel (actor : ActorContext) (organizationId : OrganizationId) (runId : RunId)
      (expectedVersion : Nat) (now : Time) (current : Option ProductionRun)

namespace Session

/-- The session with all its reads taken at `plane`. -/
def read (plane : Plane) : Session → Session
  | .admitRun actor organizationId key payload now _ =>
    .admitRun actor organizationId key payload now
      (Control.admitReads actor organizationId key payload now plane)
  | .claimRun actor organizationId runId expectedVersion payload now _ =>
    .claimRun actor organizationId runId expectedVersion payload now
      (Control.runClaimReads organizationId runId payload now plane)
  | .cancel actor organizationId runId expectedVersion now _ =>
    .cancel actor organizationId runId expectedVersion now
      (Control.loadRun plane.db organizationId runId)

/-- The reads follow one another in time, so a later part of them can be that of a later
state. -/
inductive Rereads (plane : Plane) : Session → Session → Prop where
  | evaluated {actor : ActorContext} {organizationId : OrganizationId} {key : String}
      {payload : RunCreate} {now : Time} {reads : AdmitReads} :
      Rereads plane (.admitRun actor organizationId key payload now reads)
        (.admitRun actor organizationId key payload now
          { reads with
            evaluated := Control.admission plane.db actor organizationId key payload now })
  | visible {actor : ActorContext} {organizationId : OrganizationId} {key : String}
      {payload : RunCreate} {now : Time} {reads : AdmitReads} :
      Rereads plane (.admitRun actor organizationId key payload now reads)
        (.admitRun actor organizationId key payload now
          { reads with visible := Control.partitionKeys plane.db })
  | claimVisible {actor : ActorContext} {organizationId : OrganizationId} {runId : RunId}
      {expectedVersion : Nat} {payload : RunClaim} {now : Time} {reads : RunClaimReads} :
      Rereads plane (.claimRun actor organizationId runId expectedVersion payload now reads)
        (.claimRun actor organizationId runId expectedVersion payload now
          { reads with visible := Control.partitionKeys plane.db })
  | claimRows {actor : ActorContext} {organizationId : OrganizationId} {runId : RunId}
      {expectedVersion : Nat} {payload : RunClaim} {now : Time} {reads : RunClaimReads} :
      Rereads plane (.claimRun actor organizationId runId expectedVersion payload now reads)
        (.claimRun actor organizationId runId expectedVersion payload now
          { reads with rows := Control.runClaimRows plane.db organizationId reads.run })
  | claimChecks {actor : ActorContext} {organizationId : OrganizationId} {runId : RunId}
      {expectedVersion : Nat} {payload : RunClaim} {now : Time} {reads : RunClaimReads} :
      Rereads plane (.claimRun actor organizationId runId expectedVersion payload now reads)
        (.claimRun actor organizationId runId expectedVersion payload now
          { reads with
            checks :=
              Control.runClaimChecks organizationId payload now reads.run reads.rows plane })

/-- What the session commits on `plane`. -/
def commit (plane : Plane) : Session → Except Failure (Outcome ProductionRun)
  | .admitRun actor organizationId _ _ _ reads =>
    Control.admitProductionRun actor organizationId reads plane
  | .claimRun actor organizationId runId expectedVersion _ now reads =>
    Control.claimProductionRun actor organizationId runId expectedVersion now reads plane
  | .cancel actor organizationId runId expectedVersion now current =>
    Control.cancelProductionRun actor organizationId runId expectedVersion now current plane

end Session

/-- The steps that are one transaction without earlier reads: the worker's, and the
environment's. -/
inductive World.OtherStep : World → World → Prop where
  | worker {world : World} {c : Call} {reply : Option WorkItem} {plane : Plane}
      (hitem : ∀ item, c.item? = some item → item ∈ world.items)
      (hworker : c.item?.isSome ∨ ∃ w locked now, c = .claimNext w locked now)
      (hcommit : c.commit world.plane = .ok (reply, plane)) :
      OtherStep world (world.after reply plane)
  | approvals {world : World} {plane : Plane} (h : ApprovalsOnly world.plane.db plane.db) :
      OtherStep world (world.after none plane)

/-- The two services with the transactions of the Control API interleaved. -/
def services : Protocol World Session where
  opens world s := s.read world.plane = s
  rereads world s t := s.Rereads world.plane t
  commits world s next := ∃ result plane, s.commit world.plane = .ok (result, plane) ∧
    next = world.after none plane
  other := World.OtherStep

/-! ## Steps of the dispatch tables -/

/-- What a committed admission did: it found its run, or it wrote one. -/
theorem admitProductionRun_ok {actor : ActorContext} {organizationId : OrganizationId}
    {reads : AdmitReads} {plane after : Plane} {reply : Except Failure ProductionRun}
    (h : Control.admitProductionRun actor organizationId reads plane = .ok (reply, after)) :
    (∃ run, reads.existing = .ok (some run) ∧ reply = .ok run ∧ after = plane) ∨
    ∃ a, reads.existing = .ok none ∧ reads.evaluated = .ok a ∧
      Control.admitLocked a reads.visible plane = .ok (reply, after) := by
  unfold Control.admitProductionRun at h
  split at h
  · cases h
  rcases ok_of_bind h with ⟨existing, hexisting, h⟩
  cases existing with
  | some run =>
      cases h
      exact .inl ⟨run, hexisting, rfl, rfl⟩
  | none =>
      rcases ok_of_bind h with ⟨a, ha, h⟩
      exact .inr ⟨a, hexisting, ha, h⟩

theorem Session.commit_step {s : Session} {plane after : Plane}
    {reply : Except Failure ProductionRun} (hc : plane.db.Consistent)
    (h : s.commit plane = .ok (reply, after)) : Db.Step plane.db after.db := by
  cases s with
  | admitRun actor organizationId key payload now reads =>
      rcases admitProductionRun_ok h with ⟨run, _, _, rfl⟩ | ⟨a, _, _, hbody⟩
      · exact .quiet (Db.SameQueue.quiet ⟨rfl, rfl, rfl, rfl⟩)
      · exact (Control.admitLocked_ok hc hbody).step
  | claimRun => exact (Control.claimProductionRun_ok hc h).step
  | cancel => exact (Control.cancelProductionRun_ok hc h).step

theorem World.OtherStep.step {world next : World} (h : World.OtherStep world next) :
    World.Step world next := by
  cases h with
  | worker hitem _ hcommit => exact .call hitem hcommit
  | approvals h => exact .approvals h

/-- A committed session keeps the world valid. -/
theorem World.Valid.session {world : World} {s : Session} {plane : Plane}
    {reply : Except Failure ProductionRun} (hv : world.Valid)
    (h : s.commit world.plane = .ok (reply, plane)) : (world.after none plane).Valid := by
  refine hv.after (Session.commit_step hv.consistent h) ?_
  intro item hreply
  cases hreply

/-! ## Concrete interleavings -/

section

variable {allowed : World → Session → Prop} {c d : Config World Session} {i : Nat} {s : Session}

/-- The configuration in which `s` is open in slot `i`. -/
def Session.openIn (s : Session) (c : Config World Session) (i : Nat) : Config World Session :=
  ⟨c.store, Function.update c.opened i (some s)⟩

/-- Commits the session, or rolls it back when it raises. -/
def Session.finish (s : Session) (c : Config World Session) (i : Nat) : Config World Session :=
  match s.commit c.store.plane with
  | .error _ => ⟨c.store, Function.update c.opened i none⟩
  | .ok (_, plane) => ⟨c.store.after none plane, Function.update c.opened i none⟩

/-- A worker performs a call. -/
def Call.work (call : Call) (c : Config World Session) : Config World Session :=
  ⟨c.store.perform call, c.opened⟩

omit [Sha256] in
theorem Session.openIn_self (s : Session) (c : Config World Session) (i : Nat) :
    (s.openIn c i).opened i = some s := by
  show Function.update c.opened i (some s) i = some s
  rw [Function.update_self]

omit [Sha256] in
theorem Session.openIn_store (s : Session) (c : Config World Session) (i : Nat) :
    (s.openIn c i).store = c.store := rfl

omit [Sha256] in
theorem Session.openIn_of_ne {j : Nat} (h : j ≠ i) : (s.openIn c i).opened j = c.opened j :=
  Function.update_of_ne h _ _

theorem Session.finish_of_ne {j : Nat} (h : j ≠ i) : (s.finish c i).opened j = c.opened j := by
  unfold Session.finish
  split
  · exact Function.update_of_ne h _ _
  · exact Function.update_of_ne h _ _

theorem Call.work_opened (call : Call) (c : Config World Session) :
    (call.work c).opened = c.opened := rfl

theorem Session.openIn_run (hrun : ReflTransGen (Step services allowed) c d)
    (hfree : d.opened i = none) (hread : s.read d.store.plane = s) :
    ReflTransGen (Step services allowed) c (s.openIn d i) :=
  hrun.tail (.start hfree hread)

theorem Session.finish_run (hrun : ReflTransGen (Step services allowed) c d)
    (hopen : d.opened i = some s) (hallowed : allowed d.store s) :
    ReflTransGen (Step services allowed) c (s.finish d i) := by
  unfold Session.finish
  split
  · exact hrun.tail (.abort hopen)
  next hcommit => exact hrun.tail (.commit hopen hallowed ⟨_, _, hcommit, rfl⟩)

theorem Session.finish_free (s : Session) (c : Config World Session) (i : Nat) :
    (s.finish c i).opened i = none := by
  unfold Session.finish
  split
  · exact Function.update_self i none c.opened
  · exact Function.update_self i none c.opened

theorem Call.work_run {call : Call} (hrun : ReflTransGen (Step services allowed) c d)
    (hitem : ∀ item, call.item? = some item → item ∈ d.store.items)
    (hworker : call.item?.isSome ∨ ∃ w locked now, call = .claimNext w locked now) :
    ReflTransGen (Step services allowed) c (call.work d) := by
  unfold Call.work World.perform
  split
  · exact hrun
  next hcommit => exact hrun.tail (.other (.worker hitem hworker hcommit))

end

end FlowPilot

namespace FlowPilot.Sample

attribute [local instance] polynomialSha256

/-- An admission of the draft that has just read. -/
def admitting (key : String) (now : Time) (plane : Control.Plane) : Session :=
  .admitRun actor ⟨1⟩ key draft now (Control.admitReads actor ⟨1⟩ key draft now plane)

def quietConfig : Config World Session := Config.start start

def firstAdmission : Session := admitting "idempotency-key-1" 0 start.plane

/-- The draft is queued by an admission that ran alone. -/
def firstQueued : Config World Session :=
  firstAdmission.finish (firstAdmission.openIn quietConfig 0) 0

theorem firstQueued_run {allowed : World → Session → Prop} (h : allowed start firstAdmission) :
    ReflTransGen (Step services allowed) quietConfig firstQueued := by
  refine Session.finish_run ?_ ?_ h
  · exact Session.openIn_run .refl rfl rfl
  · rfl

theorem firstQueued_free : firstQueued.opened 0 = none := by
  unfold firstQueued
  exact Session.finish_free _ _ _

end FlowPilot.Sample
