import FlowPilot.Authority.Agreement

/-!
# The recheck of the bound authority

A queued run carries the hashes of the facts of its claim, and every work item copies them.
`mark_started` and `complete` compare them with the facts of the state they commit on, under
locks, so a fact that has changed in between fails the run.
-/

open Relation FlowPilot.Lib

namespace FlowPilot

open Control (ActorContext Plane VerifiedIdentity)
open Worker (WorkItem Repository TemporalOutcome Issued)

/-! ## Grants keep their approval-set hash -/

/-- Every grant is still there, with the approval-set hash that it was issued with. -/
def SetHashesKept (t u : Table ApprovalGrant) : Prop :=
  ∀ g ∈ t.rows, ∃ g' ∈ u.rows, g'.grantId = g.grantId ∧ g'.approvalSetHash = g.approvalSetHash

namespace SetHashesKept

theorem refl (t : Table ApprovalGrant) : SetHashesKept t t := fun g hg => ⟨g, hg, rfl, rfl⟩

theorem trans {t u v : Table ApprovalGrant} (h : SetHashesKept t u) (h' : SetHashesKept u v) :
    SetHashesKept t v := by
  intro g hg
  obtain ⟨g', hg', hid, hhash⟩ := h g hg
  obtain ⟨g'', hg'', hid', hhash'⟩ := h' g' hg'
  exact ⟨g'', hg'', hid'.trans hid, hhash'.trans hhash⟩

theorem update {t : Table ApprovalGrant} {p : ApprovalGrant → Bool}
    {f : ApprovalGrant → ApprovalGrant} (hf : ∀ g, (f g).grantId = g.grantId)
    (hhash : ∀ g, (f g).approvalSetHash = g.approvalSetHash) :
    SetHashesKept t (t.update p f hf) := by
  intro g hg
  by_cases hp : p g = true
  · exact ⟨f g, Table.update_mem hg hp hf, hf g, hhash g⟩
  · refine ⟨g, List.mem_map.mpr ⟨g, hg, if_neg hp⟩, rfl, rfl⟩

theorem replaces {t u : Table ApprovalGrant} {g g' : ApprovalGrant}
    (h : Table.Replaces t u g g') (hhash : g'.approvalSetHash = g.approvalSetHash) :
    SetHashesKept t u := by
  intro x hx
  by_cases hkey : x.grantId = g.grantId
  · have hxg : x = g := Table.eq_of_key hx h.mem hkey
    rw [hxg]
    exact ⟨g', h.new_mem, h.same_key, hhash⟩
  · exact ⟨x, h.mem_iff.mpr (.inr ⟨hx, hkey⟩), rfl, rfl⟩

/-- A grant that is read and found again later has the hash that was read. -/
theorem hash_eq {t u : Table ApprovalGrant} (h : SetHashesKept t u) {g g' : ApprovalGrant}
    (hg : g ∈ t.rows) (hg' : g' ∈ u.rows) (hid : g'.grantId = g.grantId) :
    g'.approvalSetHash = g.approvalSetHash := by
  obtain ⟨x, hx, hxid, hhash⟩ := h g hg
  rw [Table.eq_of_key hg' hx (hid.trans hxid.symm)]
  exact hhash

end SetHashesKept

section

variable [Sha256] {db after : Db}

theorem failApproval_kept {w : Repository} {run : ProductionRun} {reason : TerminalReason}
    {now : Time} (h : Worker.failApproval w db run reason now = .ok after) :
    SetHashesKept db.grants after.grants := by
  unfold Worker.failApproval at h
  split at h
  · dsimp only at h
    split at h
    · split at h
      · obtain ⟨⟨sequence, db₁⟩, haudit, h⟩ := ok_of_bind h
        obtain ⟨audit, rfl⟩ := Worker.appendAudit_ok haudit
        rw [← Except.ok.inj h]
        exact .update (by intro _; rfl) (by intro _; rfl)
      · rw [← Except.ok.inj h]
        exact .refl db.grants
    · rw [← Except.ok.inj h]
      exact .refl db.grants
  · rw [← Except.ok.inj h]
    exact .refl db.grants

theorem completeApproval_kept {item : WorkItem} {successful : Bool} {receiptReference : String}
    {now : Time} (h : Worker.completeApproval db item successful receiptReference now = .ok after) :
    SetHashesKept db.grants after.grants := by
  unfold Worker.completeApproval at h
  split at h
  · dsimp only at h
    split at h
    · cases h
    · obtain ⟨⟨sequence, db₁⟩, haudit, h⟩ := ok_of_bind h
      obtain ⟨audit, rfl⟩ := Worker.appendAudit_ok haudit
      rw [← Except.ok.inj h]
      exact .update (by intro _; rfl) (by intro _; rfl)
  · obtain ⟨⟨sequence, db₁⟩, haudit, h⟩ := ok_of_bind h
    obtain ⟨audit, rfl⟩ := Worker.appendAudit_ok haudit
    rw [← Except.ok.inj h]
    exact .refl db.grants

theorem cancelGrant_kept {actor : ActorContext} {organizationId : OrganizationId}
    {requestId : RequestId} {now : Time} {grantId : Option GrantId}
    (h : Control.cancelGrant actor organizationId requestId now db = .ok (grantId, after)) :
    SetHashesKept db.grants after.grants := by
  unfold Control.cancelGrant at h
  split at h
  · rw [← (Prod.mk.inj (Except.ok.inj h)).2]
    exact .refl db.grants
  · split at h
    · dsimp only at h
      split at h
      · obtain ⟨⟨sequence, db₁⟩, haudit, h⟩ := ok_of_bind h
        obtain ⟨audit, rfl⟩ := Control.appendAuditEvent_ok haudit
        rw [← (Prod.mk.inj (Except.ok.inj h)).2]
        exact .update (by intro _; rfl) (by intro _; rfl)
      · rw [← (Prod.mk.inj (Except.ok.inj h)).2]
        exact .update (by intro _; rfl) (by intro _; rfl)
    · rw [← (Prod.mk.inj (Except.ok.inj h)).2]
      exact .refl db.grants

theorem cancelApproval_kept {actor : ActorContext} {organizationId : OrganizationId}
    {requestId : Option RequestId} {now : Time} {grantId : Option GrantId}
    (h : Control.cancelApproval actor organizationId requestId now db = .ok (grantId, after)) :
    SetHashesKept db.grants after.grants := by
  unfold Control.cancelApproval at h
  split at h
  · rw [← (Prod.mk.inj (Except.ok.inj h)).2]
    exact .refl db.grants
  · obtain ⟨db₁, hrequest, h⟩ := ok_of_bind h
    obtain ⟨requests, audit, rfl⟩ := Control.cancelRequest_ok hrequest
    have hkept := cancelGrant_kept h
    exact hkept

theorem worked_kept {w : Repository} {item : WorkItem} (h : Worker.Worked w item db after) :
    SetHashesKept db.grants after.grants := by
  cases h with
  | logged h =>
      obtain ⟨audit, traces, rfl⟩ := h.tables
      exact .refl db.grants
  | moved _ _ hsame =>
      rw [hsame.grants]
      exact .refl db.grants
  | failed _ _ hsame happroval =>
      rw [← hsame.grants]
      exact failApproval_kept happroval
  | completed _ _ hsame _ happroval =>
      rw [← hsame.grants]
      exact completeApproval_kept happroval

theorem claimed_kept {w : Repository} {reply : Option WorkItem}
    (h : Worker.Claimed w db after reply) : SetHashesKept db.grants after.grants := by
  cases h with
  | nothing _ hsame =>
      rw [hsame.grants]
      exact .refl db.grants
  | leased _ _ hsame =>
      rw [hsame.grants]
      exact .refl db.grants
  | expired _ _ hsame =>
      rw [hsame.grants]
      exact .refl db.grants
  | exhausted _ _ hsame happroval =>
      rw [← hsame.grants]
      exact failApproval_kept happroval

omit [Sha256] in
theorem runClaim_kept {actor : ActorContext} {organizationId : OrganizationId} {runId : RunId}
    {now : Time} {reads : Control.RunClaimReads}
    (h : Control.RunClaimResult actor organizationId runId now reads db after) :
    SetHashesKept db.grants after.grants := by
  cases h with
  | idle h =>
      rw [h.grants]
      exact .refl db.grants
  | queued _ _ _ _ _ _ hstart htaken _ _ _ _ _ hgrants _ =>
      obtain ⟨current, _, _, _, _, _, _, hterms, hreplaces⟩ := htaken.current
      rw [hgrants, ← hstart.grants]
      refine .replaces hreplaces ?_
      rw [hterms]

theorem cancel_kept {actor : ActorContext} {organizationId : OrganizationId} {now : Time}
    (h : Control.CancelResult actor organizationId now db after) :
    SetHashesKept db.grants after.grants := by
  cases h with
  | idle h =>
      rw [h.grants]
      exact .refl db.grants
  | withdrawn hstart _ _ _ happroval _ hgrants _ =>
      rw [hgrants, ← hstart.grants]
      exact cancelApproval_kept happroval
  | moved hsame _ _ _ happroval _ hgrants _ =>
      rw [hgrants, ← hsame.2]
      exact cancelApproval_kept happroval

theorem Call.commit_kept {c : Call} {plane next : Plane} {reply : Option WorkItem}
    (hc : plane.db.Consistent) (hitem : ∀ item, c.item? = some item → Issued plane.db item)
    (h : c.commit plane = .ok (reply, next)) : SetHashesKept plane.db.grants next.db.grants := by
  cases hkind : c.item? with
  | some item =>
      obtain ⟨_, w, hworked⟩ := c.commit_worked hc hkind (hitem item hkind) h
      exact worked_kept hworked
  | none =>
      cases c <;> cases hkind
      case none.admitRun.refl =>
        obtain ⟨result, hbody, _⟩ := onPlane_ok h
        cases Control.admitLocked_ok hc hbody with
        | rejected hidle _ =>
            rw [hidle.grants]
            exact .refl plane.db.grants
        | admitted hadmitted =>
            rw [hadmitted.grants]
            exact .refl plane.db.grants
      case none.claimRun.refl =>
        obtain ⟨result, hbody, _⟩ := onPlane_ok h
        exact runClaim_kept (Control.claimProductionRun_ok hc hbody)
      case none.cancel.refl =>
        obtain ⟨result, hbody, _⟩ := onPlane_ok h
        exact cancel_kept (Control.cancelProductionRun_ok hc hbody)
      case none.claimNext.refl =>
        obtain ⟨a, db, hbody, _, rfl⟩ := onDb_ok h
        exact claimed_kept (Worker.claimNext_ok hc hbody)

/-! ## Interleavings with the changes of authority -/

/-- The calls of both services, and any change of directory, authorities, decisions and grants
that keeps the approval-set hash of every grant. -/
inductive World.AuthorityStep : World → World → Prop where
  | call {world : World} {c : Call} {reply : Option WorkItem} {plane : Plane}
      (hitem : ∀ item, c.item? = some item → item ∈ world.items)
      (hcommit : c.commit world.plane = .ok (reply, plane)) :
      AuthorityStep world (world.after reply plane)
  | authority {world : World} {plane : Plane} (h : ApprovalsOnly world.plane.db plane.db)
      (hkept : SetHashesKept world.plane.db.grants plane.db.grants) :
      AuthorityStep world (world.after none plane)

theorem World.AuthorityStep.step {world next : World} (h : World.AuthorityStep world next) :
    World.Step world next := by
  cases h with
  | call hitem hcommit => exact .call hitem hcommit
  | authority h _ => exact .approvals h

theorem World.AuthorityStep.kept {world next : World} (hv : world.Valid)
    (h : World.AuthorityStep world next) :
    SetHashesKept world.plane.db.grants next.plane.db.grants := by
  cases h with
  | call hitem hcommit =>
      exact Call.commit_kept hv.consistent (fun item h => hv.issued item (hitem item h)) hcommit
  | authority _ hkept => exact hkept

theorem World.run_of_authority {world next : World}
    (hrun : ReflTransGen World.AuthorityStep world next) : ReflTransGen World.Step world next :=
  ReflTransGen.mono (fun _ _ h => h.step) _ _ hrun

/-- The run lemma: no step of a run rewrites the approval-set hash of a grant. -/
theorem World.kept_of_run {world next : World} (hv : world.Valid)
    (hrun : ReflTransGen World.AuthorityStep world next) :
    SetHashesKept world.plane.db.grants next.plane.db.grants := by
  induction hrun with
  | refl => exact .refl _
  | tail hbefore hlast ih =>
      exact ih.trans (hlast.kept (World.valid_of_run hv (World.run_of_authority hbefore)))

/-! ## disable_authority is such a change -/

omit [Sha256] in
theorem ApprovalsOnly.trans {mid : Db} (h : ApprovalsOnly db mid) (h' : ApprovalsOnly mid after) :
    ApprovalsOnly db after where
  runs := h'.runs.trans h.runs
  outbox := h'.outbox.trans h.outbox
  leases := h'.leases.trans h.leases
  partitions := h'.partitions.trans h.partitions
  idempotency := h'.idempotency.trans h.idempotency
  traces := h'.traces.trans h.traces
  requests := fun k hk => h'.requests k (h.requests k hk)

theorem revokeAffected_ok {actor : ActorContext} {organizationId : OrganizationId} {now : Time}
    {grant : ApprovalGrant}
    (h : Control.revokeAffected actor organizationId now db grant = .ok after) :
    ApprovalsOnly db after ∧ SetHashesKept db.grants after.grants := by
  unfold Control.revokeAffected at h
  dsimp only at h
  split at h
  · rw [← Except.ok.inj h]
    exact ⟨⟨⟨rfl, rfl, rfl, rfl⟩, rfl, rfl, fun _ hk => hk⟩,
      .update (by intro _; rfl) (by intro _; rfl)⟩
  · split at h
    · obtain ⟨⟨sequence, db₁⟩, haudit, h⟩ := ok_of_bind h
      obtain ⟨audit, rfl⟩ := Control.appendAuditEvent_ok haudit
      rw [← Except.ok.inj h]
      refine ⟨⟨⟨rfl, rfl, rfl, rfl⟩, rfl, rfl, ?_⟩,
        .update (by intro _; rfl) (by intro _; rfl)⟩
      intro k hk
      rwa [Table.isSome_get?_update]
    · rw [← Except.ok.inj h]
      exact ⟨⟨⟨rfl, rfl, rfl, rfl⟩, rfl, rfl, fun _ hk => hk⟩,
        .update (by intro _; rfl) (by intro _; rfl)⟩

theorem revokeAll_ok {actor : ActorContext} {organizationId : OrganizationId} {now : Time}
    {affected : List ApprovalGrant}
    (h : Control.revokeAll actor organizationId now db affected = .ok after) :
    ApprovalsOnly db after ∧ SetHashesKept db.grants after.grants := by
  induction affected generalizing db with
  | nil =>
      rw [← Except.ok.inj h]
      exact ⟨⟨⟨rfl, rfl, rfl, rfl⟩, rfl, rfl, fun _ hk => hk⟩, .refl db.grants⟩
  | cons grant rest ih =>
      obtain ⟨mid, hgrant, hrest⟩ := ok_of_bind h
      have hfirst := revokeAffected_ok hgrant
      have hothers := ih hrest
      exact ⟨hfirst.1.trans hothers.1, hfirst.2.trans hothers.2⟩

/-- Whatever grants its scan returned, a committed `disable_authority` is a change of authority. -/
theorem World.AuthorityStep.disableAuthority {world : World} {actor : ActorContext}
    {organizationId : OrganizationId} {authorityId : AuthorityId} {expectedVersion : Nat}
    {now : Time} {affected : List ApprovalGrant} {reply : Except Failure ApprovalAuthority}
    {plane : Plane}
    (h : Control.disableAuthority actor organizationId authorityId expectedVersion now affected
      world.plane = .ok (reply, plane)) :
    World.AuthorityStep world (world.after none plane) := by
  unfold Control.disableAuthority at h
  dsimp only at h
  split at h
  · cases h
  · split at h
    · cases h
    · split at h
      · cases h
      · obtain ⟨mid, hrevoked, h⟩ := ok_of_bind h
        obtain ⟨⟨sequence, db₁⟩, haudit, h⟩ := ok_of_bind h
        obtain ⟨audit, rfl⟩ := Control.appendAuditEvent_ok haudit
        have hplane := (Prod.mk.inj (Except.ok.inj h)).2
        rw [← hplane]
        have hall := revokeAll_ok hrevoked
        refine .authority ?_ hall.2
        exact
          { runs := hall.1.runs
            outbox := hall.1.outbox
            leases := hall.1.leases
            partitions := hall.1.partitions
            idempotency := hall.1.idempotency
            traces := hall.1.traces
            requests := hall.1.requests }

/-! ## Queued runs keep their hashes -/

omit [Sha256] in
/-- The step lemma: a run that is queued keeps everything but its progress. -/
theorem Db.Step.run_fixed (hstep : Db.Step db after) {r : ProductionRun}
    (hr : r ∈ db.runs.rows) (hqueued : r.status ≠ .waitingApproval) :
    ∃ s ∈ after.runs.rows, s.fixed = r.fixed ∧ s.runId = r.runId ∧
      s.status ≠ .waitingApproval := by
  cases hstep with
  | quiet h => exact ⟨r, by rwa [h.runs], rfl, rfl, hqueued⟩
  | @move o o' x x' h =>
      by_cases hkey : r.runId = x.runId
      · rw [Table.eq_of_key hr h.runs.mem hkey]
        exact ⟨x', h.runs.new_mem, h.run_fixed, h.runs.same_key,
          OutboxStatus.agrees_not_waiting h.coupled.status⟩
      · exact ⟨r, h.runs.mem_iff.mpr (.inr ⟨hr, hkey⟩), rfl, rfl, hqueued⟩
  | enqueue h =>
      refine ⟨r, ?_, rfl, rfl, hqueued⟩
      rcases h.runs with ⟨hfresh, hins⟩ | ⟨x, hwaiting, _, hreplaces⟩
      · rw [hins]
        exact (Table.mem_insert hfresh).mpr (.inl hr)
      · refine hreplaces.mem_iff.mpr (.inr ⟨hr, ?_⟩)
        intro hkey
        rw [Table.eq_of_key hr hreplaces.mem hkey] at hqueued
        exact hqueued hwaiting
  | await h =>
      obtain ⟨hfresh, hins⟩ := h.runs
      refine ⟨r, ?_, rfl, rfl, hqueued⟩
      rw [hins]
      exact (Table.mem_insert hfresh).mpr (.inl hr)
  | withdraw h =>
      refine ⟨r, h.runs.mem_iff.mpr (.inr ⟨hr, ?_⟩), rfl, rfl, hqueued⟩
      intro hkey
      rw [Table.eq_of_key hr h.runs.mem hkey] at hqueued
      exact hqueued h.waiting

/-- The run lemma: the hashes of a queued run are those of every later state. -/
theorem World.run_fixed_of_run {world next : World} (hv : world.Valid)
    (hrun : ReflTransGen World.Step world next) {r : ProductionRun}
    (hr : r ∈ world.plane.db.runs.rows) (hqueued : r.status ≠ .waitingApproval) :
    ∃ s ∈ next.plane.db.runs.rows, s.fixed = r.fixed ∧ s.runId = r.runId ∧
      s.status ≠ .waitingApproval := by
  induction hrun with
  | refl => exact ⟨r, hr, rfl, rfl, hqueued⟩
  | tail hbefore hlast ih =>
      obtain ⟨s, hs, hfixed, hid, hopen⟩ := ih
      have htables := hlast.tables (World.valid_of_run hv hbefore)
      obtain ⟨s', hs', hfixed', hid', hopen'⟩ := htables.run_fixed hs hopen
      exact ⟨s', hs', hfixed'.trans hfixed, hid'.trans hid, hopen'⟩

/-- The columns that a work item copies for the recheck. -/
structure CopiedFrom (item : WorkItem) (r : ProductionRun) : Prop where
  organization : item.organizationId = r.organizationId
  executor : item.executorUserId = r.executorUserId
  authorization : item.authorizationHash = r.authorizationHash
  approvalRequest : item.approvalRequestId = r.approvalRequestId
  approvalSet : item.approvalSetHash = r.approvalSetHash

omit [Sha256] in
theorem Issued.copied {item : WorkItem} (hi : Issued db item) {s r : ProductionRun}
    (hs : s ∈ db.runs.rows) (hid : s.runId = item.runId) (hfixed : s.fixed = r.fixed) :
    CopiedFrom item r := by
  obtain ⟨o, _, x, hx, hissued⟩ := hi
  have hrun : item.runId = x.runId := by
    rw [hissued.terms]
    rfl
  have hsame : s = x := Table.eq_of_key hs hx (hid.trans hrun)
  rw [← hsame] at hissued
  have hcopy : CopiedFrom item s.fixed := by
    rw [hissued.terms]
    exact ⟨rfl, rfl, rfl, rfl, rfl⟩
  rw [hfixed] at hcopy
  exact ⟨hcopy.organization, hcopy.executor, hcopy.authorization, hcopy.approvalRequest,
    hcopy.approvalSet⟩

/-! ## The recheck -/

/-- The run of the item has failed because its authority is not what it was. -/
def Invalidated (item : WorkItem) (db : Db) : Prop :=
  ∃ r ∈ db.runs.rows, r.runId = item.runId ∧ r.status = .failed ∧
    r.terminalReason = some .authorizationInvalid

theorem failLocked_invalidated {w : Repository} {item : WorkItem} {run : ProductionRun}
    {outbox : DispatchOutbox} {now : Time} {reply : Bool} (hr : run ∈ db.runs.rows)
    (ho : outbox ∈ db.outbox.rows) (hor : Coupled outbox run) (hactive : outbox.status.active)
    (hrunId : run.runId = item.runId)
    (h : Worker.failLocked w db run outbox .authorizationInvalid now = .ok (reply, after)) :
    Invalidated item after := by
  obtain ⟨mid, o', r', hmove, hstatus, _, happroval⟩ := Worker.failLocked_ok hr ho hor hactive h
  obtain ⟨requests, grants, audit, rfl⟩ := Worker.failApproval_ok happroval
  exact ⟨r', hmove.runs.new_mem, hmove.runs.same_key.trans hrunId, hstatus.1, hstatus.2⟩

/-- The item holds the lease of its row and of its run: both are in the given conditions, under its
owner and its token. -/
structure Leased (db : Db) (item : WorkItem) (outbox : DispatchOutbox → Prop)
    (run : RunStatus → Prop) : Prop where
  outbox : ∃ o ∈ db.outbox.rows, o.organizationId = item.organizationId ∧
    o.outboxId = item.outboxId ∧ o.leaseOwnerHash = some item.workerOwnerHash ∧
    o.fencingToken = item.fencingToken ∧ outbox o
  run : ∃ r ∈ db.runs.rows, r.organizationId = item.organizationId ∧ r.runId = item.runId ∧
    r.leaseOwnerHash = some item.workerOwnerHash ∧ r.fencingToken = item.fencingToken ∧
    run r.status

/-- The lease that `mark_started` asks for. -/
def StartLease (db : Db) (item : WorkItem) (now : Time) : Prop :=
  Leased db item
    (fun o => o.status = .leased ∧ ¬ o.leaseExpiresAt.isNone ∧ ¬ Worker.leaseLapsed o now)
    fun status => status = .leased ∨ status = .recovering

/-- The lease that `complete` asks for. -/
def CompleteLease (db : Db) (item : WorkItem) : Prop :=
  Leased db item (fun o => o.status = .dispatched ∧ o.leaseVersion = item.leaseVersion)
    fun status => status = .running

omit [Sha256] in
theorem not_selected {p : DispatchOutbox → Bool} {q : ProductionRun → Bool}
    (hnone : ∀ o r, db.outbox.one? p = some o → db.runs.one? q = some r → False)
    {o : DispatchOutbox} {r : ProductionRun} (ho : o ∈ db.outbox.rows) (hr : r ∈ db.runs.rows)
    (hp : p o = true) (hq : q r = true) : False := by
  obtain ⟨o', ho'⟩ := Option.isSome_iff_exists.mp (Table.one?_isSome ho hp)
  obtain ⟨r', hr'⟩ := Option.isSome_iff_exists.mp (Table.one?_isSome hr hq)
  exact hnone o' r' ho' hr'

theorem markStarted_rechecked {w : Repository} {item : WorkItem} {now : Time} {reply : Bool}
    (hc : db.Consistent) (hi : Issued db item)
    (h : Worker.markStarted w item now db = .ok (reply, after)) :
    (¬ StartLease db item now ∧ reply = false ∧ Worker.Refused item db after) ∨
      StartLease db item now ∧ (reply = false ∧ Invalidated item after ∨
        reply = true ∧ Worker.bindingValid db item now false = true) := by
  unfold Worker.markStarted at h
  dsimp only at h
  split at h
  next outbox run houtbox hrun =>
    have ho := Table.one?_mem houtbox
    have hr := Table.one?_mem hrun
    have hout := of_decide_eq_true ho.2
    obtain ⟨horg, hid, hleased, howner, hfence, hexpires, hlive⟩ := hout
    obtain ⟨hrunOrg, hrunId, hstatus, hrunOwner, hrunFence⟩ := of_decide_eq_true hr.2
    have hlease : StartLease db item now :=
      ⟨⟨outbox, ho.1, horg, hid, howner, hfence, hleased, hexpires, hlive⟩,
        ⟨run, hr.1, hrunOrg, hrunId, hrunOwner, hrunFence, hstatus⟩⟩
    have hor := hi.coupled hc ho.1 hr.1 hid hrunId
    refine .inr ⟨hlease, ?_⟩
    split at h
    · obtain ⟨⟨done, db₁⟩, hfail, h⟩ := ok_of_bind h
      obtain ⟨hreply, hafter⟩ := Prod.mk.inj (Except.ok.inj h)
      rw [← hafter]
      exact .inl ⟨hreply.symm,
        failLocked_invalidated hr.1 ho.1 hor (.inr (.inl hleased)) hrunId hfail⟩
    next hvalid =>
      refine .inr ⟨?_, not_not.mp hvalid⟩
      obtain ⟨db₁, _, h⟩ := ok_of_bind h
      obtain ⟨⟨sequence, db₂⟩, _, h⟩ := ok_of_bind h
      obtain ⟨db₃, _, h⟩ := ok_of_bind h
      obtain ⟨db₄, _, h⟩ := ok_of_bind h
      exact (Prod.mk.inj (Except.ok.inj h)).1.symm
  next hnone =>
    obtain ⟨db₁, hstale, h⟩ := ok_of_bind h
    obtain ⟨hreply, hafter⟩ := Prod.mk.inj (Except.ok.inj h)
    rw [← hafter]
    refine .inl ⟨?_, hreply.symm, Worker.recordStaleFence_refused hc hstale⟩
    -- With both rows there, both selects would have found them.
    rintro ⟨⟨o, ho, horg, hid, howner, hfence, hcondition⟩, r, hr, hrunOrg, hrunId, hrunOwner,
      hrunFence, hstatus⟩
    exact not_selected hnone ho hr
      (decide_eq_true ⟨horg, hid, hcondition.1, howner, hfence, hcondition.2⟩)
      (decide_eq_true ⟨hrunOrg, hrunId, hstatus, hrunOwner, hrunFence⟩)

theorem complete_rechecked {w : Repository} {item : WorkItem} {outcome : TemporalOutcome}
    {now : Time} {reply : Bool} (hc : db.Consistent) (hi : Issued db item)
    (h : Worker.complete w item outcome now db = .ok (reply, after)) :
    (¬ CompleteLease db item ∧ reply = false ∧ Worker.Refused item db after) ∨
      CompleteLease db item ∧ reply = true ∧ (Invalidated item after ∨
        Worker.bindingValid db item now false = true) := by
  unfold Worker.complete at h
  dsimp only at h
  split at h
  next outbox run houtbox hrun =>
    have ho := Table.one?_mem houtbox
    have hr := Table.one?_mem hrun
    obtain ⟨horg, hid, hdispatched, howner, hfence, hversion⟩ := of_decide_eq_true ho.2
    obtain ⟨hrunOrg, hrunId, hstatus, hrunOwner, hrunFence⟩ := of_decide_eq_true hr.2
    have hlease : CompleteLease db item :=
      ⟨⟨outbox, ho.1, horg, hid, howner, hfence, hdispatched, hversion⟩,
        ⟨run, hr.1, hrunOrg, hrunId, hrunOwner, hrunFence, hstatus⟩⟩
    have hor := hi.coupled hc ho.1 hr.1 hid hrunId
    split at h
    · exact .inr ⟨hlease, Worker.failLocked_reply h, .inl
        (failLocked_invalidated hr.1 ho.1 hor (.inr (.inr hdispatched)) hrunId h)⟩
    next hvalid => exact .inr ⟨hlease, Worker.completeLocked_reply h, .inr (not_not.mp hvalid)⟩
  next hnone =>
    obtain ⟨db₁, hstale, h⟩ := ok_of_bind h
    obtain ⟨hreply, hafter⟩ := Prod.mk.inj (Except.ok.inj h)
    rw [← hafter]
    refine .inl ⟨?_, hreply.symm, Worker.recordStaleFence_refused hc hstale⟩
    rintro ⟨⟨o, ho, horg, hid, howner, hfence, hcondition⟩, r, hr, hrunOrg, hrunId, hrunOwner,
      hrunFence, hstatus⟩
    exact not_selected hnone ho hr
      (decide_eq_true ⟨horg, hid, hcondition.1, howner, hfence, hcondition.2⟩)
      (decide_eq_true ⟨hrunOrg, hrunId, hstatus, hrunOwner, hrunFence⟩)

/-- A valid binding has both hashes of the item at `db`. -/
theorem bindingValid_hashes {item : WorkItem} {now : Time} {checkExpiry : Bool}
    (h : Worker.bindingValid db item now checkExpiry = true) :
    Worker.authorizationHash db item.organizationId item.executorUserId =
        some item.authorizationHash ∧
      ∀ requestId, item.approvalRequestId = some requestId →
        Worker.approvalSetHash db item.organizationId requestId = item.approvalSetHash := by
  unfold Worker.bindingValid at h
  split at h
  · cases h
  next hauthorization =>
    refine ⟨not_not.mp hauthorization, ?_⟩
    intro requestId hrequestId
    rw [hrequestId] at h
    dsimp only at h
    split at h
    · split at h
      · cases h
      · split at h
        · cases h
        · rw [Bool.and_eq_true] at h
          exact of_decide_eq_true h.1
    · cases h

/-! ## Unchanged facts -/

/-- The facts of `db` about the executor and the approvals of the item are the given ones, or have
other texts with the same hash. -/
def Unchanged (db : Db) (item : WorkItem) (authorization : AuthorizationFact)
    (approvals : List ApprovalFact) : Prop :=
  (∃ current,
    Worker.authorizationFact db item.organizationId item.executorUserId = some current ∧
      (current = authorization ∨ Collision current.json authorization.json)) ∧
  ∀ requestId, item.approvalRequestId = some requestId →
    ∃ current, Worker.approvalFacts db item.organizationId requestId = some current ∧
      (current = approvals ∨ Collision (approvalSetJson current) (approvalSetJson approvals))

theorem unchanged_of_valid {item : WorkItem} {now : Time} {checkExpiry : Bool}
    {authorization : AuthorizationFact} {approvals : List ApprovalFact}
    (hauthorization : item.authorizationHash = stableHash authorization.json)
    (happrovals : item.approvalRequestId.isSome →
      item.approvalSetHash = some (stableHash (approvalSetJson approvals)))
    (h : Worker.bindingValid db item now checkExpiry = true) :
    Unchanged db item authorization approvals := by
  obtain ⟨hcurrent, hset⟩ := bindingValid_hashes h
  constructor
  · rw [Worker.authorizationHash_eq, hauthorization] at hcurrent
    obtain ⟨current, hfact, hhash⟩ := Option.map_eq_some_iff.mp hcurrent
    exact ⟨current, hfact, eq_or_collision AuthorizationFact.of_normal hhash⟩
  · intro requestId hrequestId
    have hcurrentSet := hset requestId hrequestId
    rw [Worker.approvalSetHash_eq, happrovals (by rw [hrequestId]; rfl)] at hcurrentSet
    obtain ⟨current, hfact, hhash⟩ := Option.map_eq_some_iff.mp hcurrentSet
    exact ⟨current, hfact, eq_or_collision approvals_of_normal hhash⟩

end

end FlowPilot
