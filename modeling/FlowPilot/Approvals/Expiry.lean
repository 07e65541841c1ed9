import FlowPilot.Approvals.Lifecycle

/-!
# Ended runs and the authority they held

A run that ends closes its request and its grant with it, whichever operation ends it.  Only the
expiry of a queued run does not: its request and its grant stay claimed for ever.
-/

open FlowPilot.Lib FlowPilot.Lib.Sessions Relation

namespace FlowPilot

/-! ## Closed approvals -/

/-- What the request of a run that has ended has come to. -/
def RunStatus.closesRequest (run : RunStatus) (request : RequestStatus) : Prop :=
  if run = .finishedUngraded then request = .consumed
  else request.rank = RequestStatus.consumed.rank ∧ request ≠ .consumed

/-- What the grant of a run that has ended has come to. -/
def RunStatus.closesGrant (run : RunStatus) (grant : GrantStatus) : Prop :=
  if run = .finishedUngraded then grant = .consumed
  else grant.rank = GrantStatus.consumed.rank ∧ grant ≠ .consumed

/-- The request and the grant of a finished run are consumed, those of another ended run are
closed without being used. -/
structure ClosedApproval (db : Db) (run : ProductionRun) (k : RequestId) : Prop where
  request : ∃ x ∈ db.requests.rows, x.requestId = k ∧ run.status.closesRequest x.status
  grant : ∀ g ∈ db.grants.rows, g.requestId = k → run.status.closesGrant g.status
  granted : run.status = .finishedUngraded → ∃ g ∈ db.grants.rows, g.requestId = k

/-- Every run that has ended has closed its approval. -/
def Db.ApprovalsClosed (db : Db) : Prop :=
  ∀ run ∈ db.runs.rows, run.status.terminal → ∀ k, run.approvalRequestId = some k →
    ClosedApproval db run k

theorem permitOf_closed_rank {r : ApprovalRequest} {g : Option ApprovalGrant}
    {p : Permit ExecutionId} (h : permitOf r g = some p) (hclosed : p.Closed) :
    r.status.rank = RequestStatus.consumed.rank ∧
      ∀ grant, g = some grant → grant.status.rank = GrantStatus.consumed.rank := by
  cases g with
  | none =>
      rcases permitOf_none h with ⟨_, rfl⟩ | ⟨hr | hr | hr | hr, _⟩
      · exact hclosed.elim
      all_goals
        rw [hr]
        exact ⟨rfl, fun _ hgrant => by cases hgrant⟩
  | some grant =>
      rcases permitOf_some h with ⟨_, _, _, rfl⟩ | ⟨hr | hr, hg, _⟩ |
        ⟨e, _, ⟨_, _, rfl⟩ | ⟨hr, hg, _⟩ | ⟨hr | hr, hg, _⟩⟩
      case inl | inr.inr.inl => exact hclosed.elim
      all_goals
        rw [hr]
        refine ⟨rfl, ?_⟩
        rintro _ ⟨⟩
        show grant.status.rank = 2
        rw [hg]
        rfl

/-- Only an expired run leaves a permit open. -/
theorem RunStatus.agreesPermit_closed {status : RunStatus} (hended : status.terminal)
    {execution : Option ExecutionId} {p : Permit ExecutionId}
    (h : status.agreesPermit execution p) : p.Closed ↔ status ≠ .expired := by
  rcases hended with rfl | rfl | rfl | rfl
  · obtain ⟨e, _, rfl⟩ := h
    simp [Permit.Closed]
  · obtain ⟨e, _, rfl⟩ := h
    simp [Permit.Closed]
  · rcases h with ⟨_, rfl | rfl⟩ | ⟨e, _, rfl⟩ <;> simp [Permit.Closed]
  · obtain ⟨e, _, rfl⟩ := h
    simp [Permit.Closed]

theorem Governed.closedApproval_iff [Sha256] {plane : Control.Plane} (hg : Governed plane)
    {run : ProductionRun} (hrun : run ∈ plane.db.runs.rows) (hended : run.status.terminal)
    {k : RequestId} (hk : run.approvalRequestId = some k) :
    ClosedApproval plane.db run k ↔ run.status ≠ .expired := by
  obtain ⟨hrequest, hgrants⟩ := hg.endedRuns run hrun hended k hk
  obtain ⟨x, hx, hid, hclaimed, hconsumed⟩ := hrequest
  constructor
  · rintro ⟨⟨y, hy, hyid, hstatus⟩, _, _⟩ hexpired
    have hsame : y = x := Table.eq_of_key hy hx (hyid.trans hid.symm)
    rw [hsame, hclaimed.mpr hexpired, hexpired] at hstatus
    exact absurd hstatus.1 (by decide)
  · intro hkept
    obtain ⟨p, hp, hagrees⟩ := (hg.runs.bound run hrun k hk).permit
    have hclosed := (RunStatus.agreesPermit_closed hended hagrees).mpr hkept
    have hspent := (RunStatus.agreesPermit_ended hended hagrees).2
    have hregistry := hp
    unfold Approvals.registry at hregistry
    obtain ⟨y, hfound, hy⟩ := Option.bind_eq_some_iff.mp hregistry
    have hsame : y = x := Table.eq_of_key (Table.mem_of_get? hfound) hx
      (Eq.trans (Table.key_of_get? hfound) hid.symm)
    rw [hsame] at hy
    obtain ⟨hrank, hgrantRank⟩ := permitOf_closed_rank hy hclosed
    refine ⟨⟨x, hx, hid, ?_⟩, ?_, ?_⟩
    · unfold RunStatus.closesRequest
      split
      next hfinished => exact hconsumed.mpr hfinished
      next hother => exact ⟨hrank, fun h => hother (hconsumed.mp h)⟩
    · intro g hmem hgid
      unfold RunStatus.closesGrant
      split
      next hfinished => exact (hgrants g hmem hgid).2.mpr hfinished
      next hother =>
        exact ⟨hgrantRank g (Approvals.grantOf_of_mem hg.valid.single hmem hgid),
          fun h => hother ((hgrants g hmem hgid).2.mp h)⟩
    · -- The execution that has spent the permit is that of a grant.
      intro hfinished
      obtain ⟨e, rfl⟩ := hspent.mpr hfinished
      obtain ⟨g, hmem, hgid, _⟩ := (hg.valid.execution_iff hp e).mp rfl
      exact ⟨g, hmem, hgid⟩

/-- The approvals of ended runs are closed as long as no run with an approval has expired. -/
theorem Governed.approvalsClosed_iff [Sha256] {plane : Control.Plane} (hg : Governed plane) :
    plane.db.ApprovalsClosed ↔
      ∀ run ∈ plane.db.runs.rows, run.status = .expired → run.approvalRequestId = none := by
  constructor
  · intro hclosed run hrun hexpired
    have hended : run.status.terminal := .inr (.inr (.inr hexpired))
    cases hk : run.approvalRequestId with
    | none => rfl
    | some k =>
        exact absurd hexpired
          ((hg.closedApproval_iff hrun hended hk).mp (hclosed run hrun hended k hk))
  · intro hnone run hrun hended k hk
    refine (hg.closedApproval_iff hrun hended hk).mpr fun hexpired => ?_
    rw [hnone run hrun hexpired] at hk
    cases hk

/-! ## Who expires a run -/

/-- The run of the row that `claim_next` selects when that row is past its expiry. -/
def Worker.expiring (db : Db) (locked : Worker.Locked) (now : Time) : Option ProductionRun :=
  match Worker.selectPartition db locked with
  | none => none
  | some partition =>
    match Worker.selectOutbox db locked partition.organizationId now with
    | none => none
    | some outbox =>
      match db.runs.one? fun r =>
          r.organizationId = partition.organizationId ∧ r.runId = outbox.runId with
      | none => none
      | some run => if outbox.expiresAt ≤ now then some run else none

/-- No run expires that had not expired before. -/
def Db.ExpiresNone (db after : Db) : Prop :=
  ∀ r ∈ after.runs.rows, r.status = .expired → r ∈ db.runs.rows

variable {db after : Db}

theorem Db.expiresNone_of_runs (h : after.runs = db.runs) : db.ExpiresNone after := by
  intro r hr _
  rwa [h] at hr

theorem Db.expiresNone_of_replaces {r r' : ProductionRun}
    (h : Table.Replaces db.runs after.runs r r') (hstatus : r'.status ≠ .expired) :
    db.ExpiresNone after := by
  intro x hx hexpired
  rcases h.mem_iff.mp hx with rfl | ⟨hold, _⟩
  · exact absurd hexpired hstatus
  · exact hold

theorem Db.expiresNone_of_inserted {r : ProductionRun}
    (h : ∃ hfresh, after.runs = db.runs.insert r hfresh) (hstatus : r.status ≠ .expired) :
    db.ExpiresNone after := by
  intro x hx hexpired
  obtain ⟨hfresh, hruns⟩ := h
  rw [hruns] at hx
  rcases (Table.mem_insert hfresh).mp hx with hold | rfl
  · exact hold
  · exact absurd hexpired hstatus

theorem Db.Enqueue.expiresNone {o : DispatchOutbox} {r' : ProductionRun}
    (h : Db.Enqueue db after o r') : db.ExpiresNone after := by
  have hagrees := h.coupled.status
  rw [h.status] at hagrees
  have hstatus : r'.status ≠ .expired := by
    rw [show r'.status = .queued from hagrees]
    decide
  rcases h.runs with hinserted | ⟨r, _, _, hreplaces⟩
  · exact Db.expiresNone_of_inserted hinserted hstatus
  · exact Db.expiresNone_of_replaces hreplaces hstatus

section

variable [Sha256] {w : Worker.Repository}

theorem Worker.Worked.expiresNone {item : Worker.WorkItem} (h : Worker.Worked w item db after) :
    db.ExpiresNone after := by
  cases h with
  | logged h =>
      obtain ⟨audit, traces, rfl⟩ := h.tables
      exact Db.expiresNone_of_runs rfl
  | moved h hopen _ =>
      refine Db.expiresNone_of_replaces h.runs fun hexpired => ?_
      exact hopen (.inr (.inr (.inr hexpired)))
  | failed h hstatus _ happroval =>
      obtain ⟨requests, grants, audit, rfl⟩ := Worker.failApproval_ok happroval
      refine Db.expiresNone_of_replaces h.runs ?_
      rw [hstatus]
      decide
  | completed h hstatus _ _ happroval =>
      obtain ⟨requests, grants, audit, rfl⟩ := Worker.completeApproval_ok happroval
      refine Db.expiresNone_of_replaces h.runs ?_
      rw [hstatus]
      split <;> decide

/-- What `claim_next` does to the runs: it expires the one that is past its expiry, or none. -/
theorem Worker.claimNext_expiring {locked : Worker.Locked} {now : Time}
    {reply : Option Worker.WorkItem} (hc : db.Consistent)
    (h : Worker.claimNext w locked now db = .ok (reply, after)) :
    match Worker.expiring db locked now with
    | none => db.ExpiresNone after
    | some run => ∃ run', Table.Replaces db.runs after.runs run run' ∧ run'.status = .expired ∧
        run'.approvalRequestId = run.approvalRequestId := by
  unfold Worker.claimNext at h
  unfold Worker.expiring
  cases hpartition : Worker.selectPartition db locked with
  | none =>
    simp only [hpartition] at h ⊢
    cases h
    exact Db.expiresNone_of_runs rfl
  | some partition =>
    simp only [hpartition] at h ⊢
    cases hselect : Worker.selectOutbox db locked partition.organizationId now with
    | none =>
      simp only [hselect] at h ⊢
      obtain ⟨db₁, htouch, h⟩ := ok_of_bind h
      obtain ⟨partitions, rfl, _⟩ := Worker.touchPartition_ok htouch
      cases h
      exact Db.expiresNone_of_runs rfl
    | some outbox =>
      simp only [hselect] at h ⊢
      have ho := Table.firstBy?_mem hselect
      have hclaim : Worker.claimable partition.organizationId now outbox := by
        have hp := ho.2
        simp only [Bool.and_eq_true, decide_eq_true_eq] at hp
        exact hp.1
      cases hrun : db.runs.one? fun r =>
          decide (r.organizationId = partition.organizationId ∧ r.runId = outbox.runId) with
      | none =>
        simp only [hrun] at h ⊢
        cases h
        exact Db.expiresNone_of_runs rfl
      | some run =>
        simp only [hrun] at h ⊢
        have hr := Table.one?_mem hrun
        have hkey : outbox.runId = run.runId := (of_decide_eq_true hr.2).2.symm
        have hor := hc.coupled_run ho.1 hr.1 hkey
        have hactive := Worker.active_of_claimable hclaim
        split at h
        next hexpired =>
          rw [if_pos hexpired]
          obtain ⟨_, o', r', hmove, hstatus, _⟩ :=
            Worker.expireQueued_ok hr.1 ho.1 hor hactive hclaim.1 h
          have hkept := congrArg ProductionRun.approvalRequestId hmove.run_fixed
          exact ⟨r', hmove.runs, hstatus, hkept⟩
        next hexpired =>
          rw [if_neg hexpired]
          dsimp only
          split at h
          · obtain ⟨⟨_, db₁⟩, hfail, h⟩ := ok_of_bind h
            cases h
            obtain ⟨mid, o', r', hmove, ⟨hstatus, _⟩, _, happroval⟩ :=
              Worker.failLocked_ok hr.1 ho.1 hor hactive hfail
            obtain ⟨requests, grants, audit, rfl⟩ := Worker.failApproval_ok happroval
            refine Db.expiresNone_of_replaces hmove.runs ?_
            rw [hstatus]
            decide
          · obtain ⟨item, o', r', _, hmove, hitem, _⟩ :=
              Worker.takeLease_ok hr.1 ho.1 hor hactive hclaim.1 h
            have hagrees := hmove.coupled.status
            rw [hitem.status] at hagrees
            refine Db.expiresNone_of_replaces hmove.runs fun hexpired => ?_
            rcases hagrees with hstatus | hstatus <;> rw [hstatus] at hexpired <;> cases hexpired

theorem Call.expiresNone {c : Call} {plane next : Control.Plane} {reply : Option Worker.WorkItem}
    (hc : plane.db.Consistent) (hclaims : c.claims = false)
    (hnext : ∀ w locked now, c = .claimNext w locked now →
      Worker.expiring plane.db locked now = none)
    (hitem : ∀ item, c.item? = some item → Worker.Issued plane.db item)
    (h : c.commit plane = .ok (reply, next)) : plane.db.ExpiresNone next.db := by
  cases hkind : c.item? with
  | some item =>
      obtain ⟨_, w, hworked⟩ := c.commit_worked hc hkind (hitem item hkind) h
      exact hworked.expiresNone
  | none =>
      cases c <;> cases hkind
      case none.admitRun.refl =>
        obtain ⟨result, hbody, _⟩ := onPlane_ok h
        cases Control.admitLocked_ok hc hbody with
        | rejected hidle _ => exact Db.expiresNone_of_runs hidle.runs
        | admitted hadmitted =>
            rcases hadmitted.queue with ⟨hawait, _⟩ | ⟨⟨o, henqueue⟩, _⟩
            · refine Db.expiresNone_of_inserted hawait.runs ?_
              rw [hawait.status]
              decide
            · exact henqueue.expiresNone
      case none.claimRun.refl => cases hclaims
      case none.cancel.refl =>
        obtain ⟨result, hbody, _⟩ := onPlane_ok h
        cases Control.cancelProductionRun_ok hc hbody with
        | idle h => exact Db.expiresNone_of_runs h.runs
        | withdrawn _ h _ _ _ _ _ _ =>
            refine Db.expiresNone_of_replaces h.runs ?_
            rw [h.status]
            decide
        | moved _ h hstatus _ _ _ _ _ =>
            refine Db.expiresNone_of_replaces h.runs ?_
            rw [hstatus]
            decide
      case none.claimNext.refl w locked now =>
        obtain ⟨a, db, hbody, _, rfl⟩ := onDb_ok h
        have hruns := Worker.claimNext_expiring hc hbody
        rwa [hnext w locked now rfl] at hruns

theorem Claiming.expiresNone {t : Claiming} {plane next : Control.Plane}
    {reply : Option Worker.WorkItem} (hg : Governed plane) (ht : t.Read plane)
    (h : t.commit plane = .ok (reply, next)) : plane.db.ExpiresNone next.db := by
  have happroved := ht.approved
  unfold Claiming.checks at happroved
  unfold Claiming.commit at h
  split at h
  next requestId payload htarget =>
    rw [htarget] at happroved
    obtain ⟨result, hbody, _⟩ := onPlane_ok h
    have hoperated := (claimGrant_advanced hg happroved ht.production hbody).1
    exact Db.expiresNone_of_runs hoperated.approvalsOnly.runs
  next runId expectedVersion payload current visible htarget =>
    rw [htarget] at happroved
    obtain ⟨result, hbody, _⟩ := onPlane_ok h
    cases Control.claimProductionRun_end hg.valid happroved hbody with
    | idle hruns _ _ => exact Db.expiresNone_of_runs hruns
    | taken _ _ _ _ hruns _ hterms _ =>
        refine Db.expiresNone_of_replaces hruns ?_
        rw [hterms.status]
        decide

end

/-! ## Runs of the two services -/

section

variable [Sha256] {c d : Config World Claiming}

/-- The step is a `claim_next` that finds a row past its expiry whose run has an approval. -/
def Claiming.ExpiresApproved (c d : Config World Claiming) : Prop :=
  ∃ w locked now reply plane run,
    Call.commit c.store.plane (.claimNext w locked now) = .ok (reply, plane) ∧
    d = ⟨c.store.after reply plane, c.opened⟩ ∧
    Worker.expiring c.store.plane.db locked now = some run ∧ run.approvalRequestId ≠ none

/-- A run in which no such step is taken. -/
abbrev Claiming.UnexpiredRun : Config World Claiming → Config World Claiming → Prop :=
  ReflTransGen fun c d => Step claims Anything c d ∧ ¬ Claiming.ExpiresApproved c d

/-- The step lemma: approvals stay closed exactly while no run with an approval expires. -/
theorem Claiming.approvalsClosed_step (hc : Claiming.Holds c)
    (hclosed : c.store.plane.db.ApprovalsClosed) (hstep : Step claims Anything c d) :
    d.store.plane.db.ApprovalsClosed ↔ ¬ Claiming.ExpiresApproved c d := by
  have hd := claims_invariant.step hc hstep
  have hnone := hc.1.governed.approvalsClosed_iff.mp hclosed
  rw [hd.1.governed.approvalsClosed_iff]
  -- A step after which none but the same runs have expired keeps the approvals closed.
  have hkept (h : c.store.plane.db.ExpiresNone d.store.plane.db) :
      ∀ run ∈ d.store.plane.db.runs.rows, run.status = .expired →
        run.approvalRequestId = none :=
    fun run hrun hexpired => hnone run (h run hrun hexpired) hexpired
  constructor
  · rintro hafter ⟨w, locked, now, reply, plane, run, hcommit, rfl, hfound, happroval⟩
    obtain ⟨a, db, hbody, _, rfl⟩ := onDb_ok hcommit
    have hruns := Worker.claimNext_expiring hc.1.consistent hbody
    rw [hfound] at hruns
    obtain ⟨run', hreplaces, hstatus, hsame⟩ := hruns
    rw [← hsame] at happroval
    exact happroval (hafter run' hreplaces.new_mem hstatus)
  · intro hsparing
    cases hstep with
    | start | reread | abort => exact hnone
    | commit hopen _ h =>
        obtain ⟨reply, plane, hcommit, rfl⟩ := h
        exact hkept (Claiming.expiresNone hc.1.governed (hc.2 _ _ hopen) hcommit)
    | other h =>
        cases h with
        | @call call reply plane hclaims hitem hcommit =>
            cases hkind : call with
            | claimNext w locked now =>
                rw [hkind] at hcommit
                obtain ⟨a, db, hbody, _, rfl⟩ := onDb_ok hcommit
                have hruns := Worker.claimNext_expiring hc.1.consistent hbody
                cases hfound : Worker.expiring c.store.plane.db locked now with
                | none =>
                    rw [hfound] at hruns
                    exact hkept hruns
                | some run =>
                    rw [hfound] at hruns
                    obtain ⟨run', hreplaces, _, hsame⟩ := hruns
                    -- The run that expires has no approval, and the others are as they were.
                    have happroval : run.approvalRequestId = none := by
                      by_contra hsome
                      exact hsparing ⟨w, locked, now, _, _, run, hcommit, rfl, hfound, hsome⟩
                    intro x hx hexpired
                    rcases hreplaces.mem_iff.mp hx with rfl | ⟨hold, _⟩
                    · exact hsame.trans happroval
                    · exact hnone x hold hexpired
            | _ =>
                refine hkept (Call.expiresNone hc.1.consistent hclaims ?_
                  (fun item h => hc.1.issued item (hitem item h)) hcommit)
                intro w locked now hcall
                rw [hkind] at hcall
                cases hcall
        | operation h =>
            exact hkept (Db.expiresNone_of_runs (h.spared hc.1.governed).1.approvalsOnly.runs)
        | directory => exact hnone
        | restart => exact hnone

/-- A step of claims and other transactions is one of the dispatch tables, or reads alone. -/
theorem Claiming.tables_of_step (hc : Claiming.Holds c) (hstep : Step claims Anything c d) :
    d.store = c.store ∨ World.Step c.store d.store := by
  cases hstep with
  | start | reread | abort => exact .inl rfl
  | @commit i t s hopen _ h =>
      obtain ⟨reply, plane, hcommit, rfl⟩ := h
      have ht := hc.2 i t hopen
      have happroved := ht.approved
      unfold Claiming.checks at happroved
      refine .inr ?_
      unfold Claiming.commit at hcommit
      split at hcommit
      next requestId payload htarget =>
        rw [htarget] at happroved
        obtain ⟨result, hbody, _⟩ := onPlane_ok hcommit
        have hoperated := (claimGrant_advanced hc.1.governed happroved ht.production hbody).1
        exact .approvals hoperated.approvalsOnly
      next runId expectedVersion payload current visible htarget =>
        obtain ⟨result, hbody, rfl⟩ := onPlane_ok hcommit
        refine World.Step.call (c := .claimRun t.actor t.organizationId runId expectedVersion t.now
          _) (fun item hitem => by cases hitem) hcommit
  | other h =>
      refine .inr ?_
      cases h with
      | call _ hitem hcommit => exact .call hitem hcommit
      | operation h => exact .approvals (h.spared hc.1.governed).1.approvalsOnly
      | directory => exact .approvals ⟨⟨rfl, rfl, rfl, rfl⟩, rfl, rfl, fun _ h => h⟩
      | restart => exact .approvals ⟨⟨rfl, rfl, rfl, rfl⟩, rfl, rfl, fun _ h => h⟩

/-- A run that has expired stays so, and its approval stays open. -/
theorem Claiming.approvalsClosed_before (hc : Claiming.Holds c)
    (hstep : Step claims Anything c d) (hclosed : d.store.plane.db.ApprovalsClosed) :
    c.store.plane.db.ApprovalsClosed := by
  have hnone := (claims_invariant.step hc hstep).1.governed.approvalsClosed_iff.mp hclosed
  refine hc.1.governed.approvalsClosed_iff.mpr fun run hrun hexpired => ?_
  refine hnone run ?_ hexpired
  rcases Claiming.tables_of_step hc hstep with hsame | hworld
  · rwa [hsame]
  · exact (hworld.tables hc.1.toValid).run_frozen hrun (.inr (.inr (.inr hexpired)))

/-- However the services are used, every ended run has closed its request and its grant exactly as
long as no `claim_next` has expired a run with an approval. -/
theorem approvals_closed_iff {directory : Directory} {authorities : Table ApprovalAuthority}
    {heads : Table AuditChainHead}
    (hrun : Claiming.Run (.start (World.start directory authorities heads)) c) :
    c.store.plane.db.ApprovalsClosed ↔
      Claiming.UnexpiredRun (.start (World.start directory authorities heads)) c := by
  constructor
  · intro hclosed
    induction hrun with
    | refl => exact .refl
    | tail hbefore hlast ih =>
        have hc := Claiming.holds_of_run hbefore
        have hearlier := Claiming.approvalsClosed_before hc hlast hclosed
        exact (ih hearlier).tail
          ⟨hlast, (Claiming.approvalsClosed_step hc hearlier hlast).mp hclosed⟩
  · intro hunexpired
    induction hunexpired with
    | refl => exact fun _ hmem => (List.not_mem_nil hmem).elim
    | tail hbefore hlast ih =>
        have hrun := ReflTransGen.mono (fun _ _ h => h.1) _ _ hbefore
        exact (Claiming.approvalsClosed_step (Claiming.holds_of_run hrun) (ih hrun) hlast.1).mpr
          hlast.2

end

section

attribute [local instance] polynomialSha256

theorem Sample.expired_run : Claiming.Run (.start Sample.staffed) (.start Sample.expired) :=
  World.perform_claims Sample.claimed_run rfl fun _ hitem => by cases hitem

theorem approvals_closed_iff_cancelled :
    Sample.cancelled.plane.db.ApprovalsClosed ∧
      Claiming.UnexpiredRun (.start Sample.staffed) (.start Sample.cancelled) := by
  have hiff := approvals_closed_iff Sample.cancelled_run
  have hgoverned := (Claiming.holds_of_run Sample.cancelled_run).1.governed
  rw [Config.start_store] at hiff hgoverned
  have hclosed : Sample.cancelled.plane.db.ApprovalsClosed := by
    refine hgoverned.approvalsClosed_iff.mpr fun run hrun hexpired => ?_
    have hmem := List.mem_map_of_mem (f := fun run => (run.status, run.approvalRequestId)) hrun
    rw [Sample.cancelled_evaluated.2.2.1, List.mem_singleton, hexpired] at hmem
    cases hmem
  exact ⟨hclosed, hiff.mp hclosed⟩

/-- The run that expired has left its approval claimed. -/
theorem approvals_not_closed_expired :
    Claiming.Run (.start Sample.staffed) (.start Sample.expired) ∧
      ¬ Sample.expired.plane.db.ApprovalsClosed := by
  refine ⟨Sample.expired_run, fun hclosed => ?_⟩
  have hgoverned := (Claiming.holds_of_run Sample.expired_run).1.governed
  rw [Config.start_store] at hgoverned
  have hmem : (RunStatus.expired, some (⟨1⟩ : RequestId)) ∈
      Sample.expired.plane.db.runs.rows.map (fun run => (run.status, run.approvalRequestId)) := by
    rw [Sample.cancelled_evaluated.2.2.2]
    exact List.mem_singleton_self _
  obtain ⟨run, hrun, hsame⟩ := List.mem_map.mp hmem
  obtain ⟨hstatus, happroval⟩ := Prod.mk.inj hsame
  rw [hgoverned.approvalsClosed_iff.mp hclosed run hrun hstatus] at happroval
  cases happroval

end

end FlowPilot
