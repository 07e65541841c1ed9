import FlowPilot.Approvals.Governed

/-!
# The production operations and the approvals

An admission that has to wait inserts its run and its request together.  A claim of a run takes
the permit for it in the transaction that queues it, and a cancellation ends both.
-/

open FlowPilot.Lib Relation

namespace FlowPilot

open Approvals (Bound Unbound RunsBound Settled Next)
open Control

variable [Sha256] {plane next : Plane} {db after : Db}

/-! ## Admission -/

namespace Control

omit [Sha256] in
theorem admitOutbox_runs {a : Admission} {run : ProductionRun}
    {outbox : Option DispatchOutbox} (h : admitOutbox a run db = .ok (outbox, after)) :
    after.runs = db.runs := by
  unfold admitOutbox at h
  split at h
  · cases h
    rfl
  · obtain ⟨db₁, hinsert, h⟩ := ok_of_bind h
    obtain ⟨_, rfl, _⟩ := Db.insertOutbox_ok hinsert
    obtain ⟨db₂, hready, h⟩ := ok_of_bind h
    obtain ⟨rfl, _⟩ := Db.updatePartition_ok hready
    cases h
    rfl

omit [Sha256] in
theorem inserted_of_eq {runs runs' runs'' : Table ProductionRun} {r : ProductionRun}
    (heq : runs = runs') (h : ∃ hfresh, runs'' = runs.insert r hfresh) :
    ∃ hfresh, runs'' = runs'.insert r hfresh := by
  rwa [heq] at h

theorem admitInserts_run {a : Admission} {run : ProductionRun}
    (h : admitInserts a db = .ok (run, after)) :
    (∃ hfresh, after.runs = db.runs.insert run hfresh) ∧ run.executionId = none := by
  unfold admitInserts at h
  obtain ⟨⟨_, db₁⟩, haudit, h⟩ := ok_of_bind h
  obtain ⟨audit, rfl⟩ := appendAuditEvent_ok haudit
  dsimp only at h
  obtain ⟨⟨requestId, db₂⟩, hrequest, h⟩ := ok_of_bind h
  have hruns : db₂.runs = db.runs := by
    rcases admitRequest_ok hrequest with ⟨⟨_, _, _, rfl, _⟩, _⟩ | ⟨⟨rfl, _⟩, _⟩ <;> rfl
  dsimp only at h
  obtain ⟨⟨sequence, db₃⟩, hqueued, h⟩ := ok_of_bind h
  obtain ⟨audit', rfl⟩ := appendAuditEvent_ok hqueued
  dsimp only at h
  obtain ⟨db₄, hrun, h⟩ := ok_of_bind h
  obtain ⟨hfresh, rfl⟩ := Db.insertRun_ok hrun
  dsimp only at h hfresh
  obtain ⟨db₅, hrecord, h⟩ := ok_of_bind h
  obtain ⟨_, rfl⟩ := Db.insertIdempotency_ok hrecord
  dsimp only at h
  obtain ⟨⟨outbox, db₆⟩, houtbox, h⟩ := ok_of_bind h
  have hkept := admitOutbox_runs houtbox
  dsimp only at h hkept
  obtain ⟨db₇, htrace, h⟩ := ok_of_bind h
  obtain ⟨traces, rfl⟩ := appendObservabilityEvent_ok htrace
  split at h
  · cases h
    exact ⟨inserted_of_eq hruns ⟨hfresh, hkept⟩, rfl⟩
  · obtain ⟨db₈, hsecond, h⟩ := ok_of_bind h
    obtain ⟨traces', rfl⟩ := appendObservabilityEvent_ok hsecond
    cases h
    exact ⟨inserted_of_eq hruns ⟨hfresh, hkept⟩, rfl⟩

/-- An admission leaves the vault alone, and its run is a new one. -/
theorem admitLocked_run {a : Admission} {visible : List OrganizationId}
    {reply : Except Failure ProductionRun}
    (h : admitLocked a visible plane = .ok (reply, next)) :
    next.vault = plane.vault ∧ ∀ run, reply = .ok run →
      (∃ hfresh, next.db.runs = plane.db.runs.insert run hfresh) ∧ run.executionId = none := by
  unfold admitLocked at h
  split at h
  · obtain ⟨⟨_, db₁⟩, _, h⟩ := ok_of_bind h
    cases h
    exact ⟨rfl, fun _ hrun => by cases hrun⟩
  obtain ⟨⟨limited, db₁⟩, hlimit, h⟩ := ok_of_bind h
  have hidle := rateLimit_idle hlimit
  dsimp only at h
  split at h
  · cases h
    exact ⟨rfl, fun _ hrun => by cases hrun⟩
  split at h
  · obtain ⟨⟨run, db₂⟩, hinserts, h⟩ := ok_of_bind h
    cases h
    obtain ⟨hinserted, hexecution⟩ := admitInserts_run hinserts
    refine ⟨rfl, fun run hrun => ?_⟩
    cases hrun
    exact ⟨inserted_of_eq hidle.runs hinserted, hexecution⟩
  · have hensure := hidle.trans (ensurePartition_idle db₁ a.organizationId a.now).1
    split at h
    · obtain ⟨⟨run, db₂⟩, hinserts, h⟩ := ok_of_bind h
      cases h
      obtain ⟨hinserted, hexecution⟩ := admitInserts_run hinserts
      refine ⟨rfl, fun run hrun => ?_⟩
      cases hrun
      exact ⟨inserted_of_eq hensure.runs hinserted, hexecution⟩
    · obtain ⟨⟨_, db₂⟩, _, h⟩ := ok_of_bind h
      obtain ⟨⟨_, db₃⟩, _, h⟩ := ok_of_bind h
      cases h
      exact ⟨rfl, fun _ hrun => by cases hrun⟩

/-- A run is inserted that waits for the request that is inserted with it. -/
theorem spared_of_asked {run : ProductionRun} {request : ApprovalRequest} (hg : Governed plane)
    (hruns : ∃ hfresh, next.db.runs = plane.db.runs.insert run hfresh)
    (hrequests : ∃ hnew, next.db.requests = plane.db.requests.insert request hnew)
    (hdecisions : next.db.decisions = plane.db.decisions)
    (hgrants : next.db.grants = plane.db.grants) (hvault : next.vault = plane.vault)
    (hpending : request.status = .pending) (horg : request.organizationId = run.organizationId)
    (happroval : run.approvalRequestId = some request.requestId)
    (hwaiting : run.status = .waitingApproval) (hexecution : run.executionId = none) :
    Spared plane next := by
  obtain ⟨hfresh, hruns⟩ := hruns
  have hasked : plane.approvals.Next next.approvals :=
    .ask hpending hrequests hdecisions hgrants hvault
  obtain ⟨hbefore, hregistry⟩ := Approvals.asked_registry (s := plane.approvals)
    (hasked.valid hg.valid) hpending hrequests hgrants
  obtain ⟨hnew, hrequests⟩ := hrequests
  -- The request is new, so its permit is one that no run had before.
  refine ⟨⟨.single hasked, hg.runs.inserted hruns hasked.requests hasked.grants ?_ ?_ ?_, ?_⟩, ?_⟩
  · intro k hk
    rw [hregistry, Function.update_of_ne]
    intro hsame
    rw [hsame, hbefore] at hk
    cases hk
  · intro k hk
    rw [happroval] at hk
    cases hk
    have hmem : request ∈ next.approvals.requests.rows := by
      show request ∈ next.db.requests.rows
      rw [hrequests]
      exact (Table.mem_insert hnew).mpr (.inr rfl)
    refine ⟨⟨⟨request, hmem, rfl, horg⟩, ?_, .asked, ?_, ?_⟩, hbefore⟩
    · intro e he
      rw [hexecution] at he
      cases he
    · rw [hregistry, Function.update_self]
    · rw [hwaiting]
      exact ⟨hexecution, rfl⟩
  · intro hnone
    rw [happroval] at hnone
    cases hnone
  · intro x hx k hk
    rw [hruns] at hx
    rcases (Table.mem_insert hfresh).mp hx with hold | rfl
    · exact .inl ⟨x, hold, hk⟩
    · rw [happroval] at hk
      rw [← Option.some.inj hk]
      exact .inr (Table.get?_eq_none.mp hnew)
  · rw [hregistry]
    apply Permit.Registry.sameExecutions_update
    unfold Permit.Registry.executionAt
    rw [hbefore]
    rfl

/-- A run is inserted that needs no approval. -/
theorem spared_of_unbound {run : ProductionRun} (hg : Governed plane)
    (hruns : ∃ hfresh, next.db.runs = plane.db.runs.insert run hfresh)
    (hsame : next.approvals = plane.approvals) (hnone : run.approvalRequestId = none)
    (hunbound : Unbound run) : Spared plane next := by
  obtain ⟨hfresh, hruns⟩ := hruns
  refine ⟨⟨by rw [hsame], ?_, ?_⟩, fun _ => by rw [hsame]⟩
  · rw [hsame]
    refine hg.runs.inserted hruns (.refl ApprovalRequest.Later.refl _)
      (.refl ApprovalGrant.Later.refl _) (fun _ _ => rfl) ?_ fun _ => hunbound
    intro k hk
    rw [hnone] at hk
    cases hk
  · intro x hx k hk
    rw [hruns] at hx
    rcases (Table.mem_insert hfresh).mp hx with hold | rfl
    · exact .inl ⟨x, hold, hk⟩
    · rw [hnone] at hk
      cases hk

theorem admitLocked_spared {a : Admission} {visible : List OrganizationId}
    {reply : Except Failure ProductionRun} (hc : plane.db.Consistent) (hg : Governed plane)
    (h : admitLocked a visible plane = .ok (reply, next)) : Spared plane next := by
  obtain ⟨hvault, hinserted⟩ := admitLocked_run h
  cases admitLocked_ok hc h with
  | rejected hidle _ =>
      exact spared_of_same hg hidle.runs hidle.toSameApprovals (by rw [hvault])
  | @admitted run hadmitted =>
      obtain ⟨hruns, hexecution⟩ := hinserted run rfl
      rcases hadmitted.requests with
        ⟨⟨request, hnew, hrequests, hpending, horg, _, happroval⟩, hwaits⟩ |
        ⟨⟨hrequests, hnone⟩, hwaits⟩
      · have hwaiting : run.status = .waitingApproval := by
          rcases hadmitted.queue with ⟨hawait, _⟩ | ⟨_, hnot⟩
          · exact hawait.status
          · rw [hwaits] at hnot
            cases hnot
        exact spared_of_asked hg hruns ⟨hnew, hrequests⟩ hadmitted.decisions hadmitted.grants
          hvault hpending (horg.trans hadmitted.organization.symm) happroval hwaiting hexecution
      · have hsame : next.approvals = plane.approvals := by
          show Approvals.mk _ _ _ _ = Approvals.mk _ _ _ _
          rw [hrequests, hadmitted.decisions, hadmitted.grants, hvault]
        have hqueued : run.status = .queued := by
          rcases hadmitted.queue with ⟨_, hnot⟩ | ⟨⟨o, henqueue⟩, _⟩
          · rw [hwaits] at hnot
            cases hnot
          · have hagrees := henqueue.coupled.status
            rw [henqueue.status] at hagrees
            exact hagrees
        refine spared_of_unbound hg hruns hsame hnone ⟨?_, hadmitted.grant, hexecution⟩
        rw [hqueued]
        decide

/-! ## Claims -/

/-- `on_claim` queues one waiting run and writes nothing of the approvals. -/
theorem queueClaimedRun_run {actor : ActorContext} {organizationId : OrganizationId}
    {runId : RunId} {now : Time} {request : ApprovalRequest}
    {grant : ApprovalGrant} {claim : ExecutionClaim}
    (h : queueClaimedRun actor organizationId runId now request grant claim db =
      .ok after) :
    ∃ r r', Table.Replaces db.runs after.runs r r' ∧ r.runId = runId ∧
      QueuedUnder organizationId request grant claim r r' ∧ db.SameApprovals after := by
  unfold queueClaimedRun at h
  split at h
  · cases h
  next run hrun =>
    obtain ⟨hr, hcondition⟩ := Table.one?_mem hrun
    obtain ⟨horg, hrunId, hwait, hrequest, hparams, haction⟩ := of_decide_eq_true hcondition
    dsimp only at h
    obtain ⟨⟨sequence, db₁⟩, haudit, h⟩ := ok_of_bind h
    obtain ⟨audit, rfl⟩ := appendAuditEvent_ok haudit
    dsimp only at h
    obtain ⟨db₂, hinsert, h⟩ := ok_of_bind h
    obtain ⟨hfresh, rfl, _⟩ := Db.insertOutbox_ok hinsert
    dsimp only at h
    obtain ⟨db₃, hready, h⟩ := ok_of_bind h
    obtain ⟨rfl, _⟩ := Db.updatePartition_ok hready
    dsimp only at h
    obtain ⟨db₄, htrace, h⟩ := ok_of_bind h
    obtain ⟨traces, rfl⟩ := appendObservabilityEvent_ok htrace
    obtain ⟨traces', rfl⟩ := appendObservabilityEvent_ok h
    exact ⟨run, _, Table.replaces_update hr (by simp [hrunId]) (by simp +contextual [hrunId]),
      hrunId, ⟨hwait, horg, hrequest, haction, hparams, rfl, rfl⟩, rfl, rfl, rfl, rfl, rfl, rfl⟩

/-- A claim of a run either stops before it claims the grant, or it is that claim, and then it
answers with the run as it finds it again. -/
inductive RunClaimCases (actor : ActorContext) (organizationId : OrganizationId) (runId : RunId)
    (now : Time) (reads : RunClaimReads) (plane next : Plane)
    (reply : Except Failure ProductionRun) : Prop where
  | idle (h : plane.db.Idle next.db) (hvault : next.vault = plane.vault)
  | claim {start : Db} {requestId : RequestId} {claimed : Except Failure ExecutionClaim}
      (hstart : plane.db.Idle start)
      (h : claimGrant actor organizationId requestId now
        (some (queueClaimedRun actor organizationId runId now)) reads.rows
        reads.checks plane.db ⟨start, plane.vault⟩ = .ok (claimed, next))
      (hreply : ∀ claim, claimed = .ok claim → ∀ run ∈ next.db.runs.rows,
        run.organizationId = organizationId → run.runId = runId → reply = .ok run)

theorem claimProductionRun_cases {actor : ActorContext} {organizationId : OrganizationId}
    {runId : RunId} {expectedVersion : Nat} {now : Time} {reads : RunClaimReads}
    {reply : Except Failure ProductionRun}
    (h : claimProductionRun actor organizationId runId expectedVersion now reads plane =
      .ok (reply, next)) : RunClaimCases actor organizationId runId now reads plane next reply := by
  unfold claimProductionRun at h
  split at h
  · cases h
  obtain ⟨⟨limited, db₁⟩, hlimit, h⟩ := ok_of_bind h
  have hidle := rateLimit_idle hlimit
  dsimp only at h
  split at h
  · cases h
    exact .idle hidle rfl
  split at h
  · cases h
  split at h
  · cases h
  split at h
  · cases h
  have hstart := hidle.trans (ensurePartition_idle db₁ organizationId now).1
  split at h
  · obtain ⟨⟨_, db₂⟩, haudit, h⟩ := ok_of_bind h
    cases h
    exact .idle (hstart.trans (audit_idle haudit)) rfl
  · obtain ⟨⟨claimed, after'⟩, hclaim, h⟩ := ok_of_bind h
    dsimp only at h
    split at h
    · cases h
      exact .claim hstart hclaim fun _ hok => by cases hok
    · -- The run is loaded again under its id, which is a key.
      split at h
      next hnone =>
        cases h
        refine .claim hstart hclaim fun _ _ run hrun horg hid => ?_
        have hmiss := Table.one?_eq_none.mp hnone run hrun
        simp [horg, hid] at hmiss
      next refreshed hfound =>
        cases h
        refine .claim hstart hclaim fun _ _ run hrun horg hid => ?_
        obtain ⟨hmem, hcondition⟩ := Table.one?_mem hfound
        have hsame : refreshed = run :=
          Table.eq_of_key hmem hrun ((of_decide_eq_true hcondition).2.trans hid.symm)
        rw [hsame]

omit [Sha256] in
theorem Loaded.of_same {request : ApprovalRequest} {grant : ApprovalGrant}
    (h : Loaded db request grant) (hsame : db.SameApprovals after) :
    Loaded after request grant where
  requestRow := by
    rw [hsame.requests]
    exact h.requestRow
  grantRow := by
    rw [hsame.grants]
    exact h.grantRow
  pair := h.pair

/-- How the claim of a run ends: nothing is written of runs and approvals, or a waiting run is
queued with the permit that the claim takes for it. -/
inductive RunClaimEnd (organizationId : OrganizationId) (reads : RunClaimReads)
    (plane next : Plane) (reply : Except Failure ProductionRun) : Prop where
  | idle (hruns : next.db.runs = plane.db.runs) (hsame : plane.db.SameApprovals next.db)
      (hvault : next.vault.entries.Sublist plane.vault.entries)
  | taken {request request' claimed : ApprovalRequest} {grant grant' : ApprovalGrant}
      {claim : ExecutionClaim} {r r' : ProductionRun} (hrequest : reads.rows.request = some request)
      (hgrant : reads.rows.grant = some grant) (hchecks : reads.checks = .ok ())
      (hmoved : plane.approvals.Moved next.approvals request request' grant grant' .granted
        (.taken claim.executionId))
      (hruns : Table.Replaces plane.db.runs next.db.runs r r')
      (hclaimed : claimed.requestId = request.requestId)
      (hterms : QueuedUnder organizationId claimed grant' claim r r')
      (hreply : reply = .ok r')

theorem claimProductionRun_end {actor : ActorContext} {organizationId : OrganizationId}
    {runId : RunId} {expectedVersion : Nat} {now : Time} {reads : RunClaimReads}
    {reply : Except Failure ProductionRun} (hv : plane.approvals.Valid)
    (hloaded : ∀ request grant, reads.rows.request = some request →
      reads.rows.grant = some grant → reads.checks = .ok () →
      Loaded plane.db request grant ∧ request.status = .approved)
    (h : claimProductionRun actor organizationId runId expectedVersion now reads plane =
      .ok (reply, next)) : RunClaimEnd organizationId reads plane next reply := by
  cases claimProductionRun_cases h with
  | idle hidle hvault => exact .idle hidle.runs hidle.toSameApprovals (by rw [hvault])
  | @claim start requestId answer hstart h hreply =>
      cases claimGrant_cases h with
      | rejected audit hdb hvault =>
          -- What is committed is the audit entry, with the rate limit or after its rollback.
          have hsame : next.db.runs = plane.db.runs ∧ plane.db.SameApprovals next.db := by
            rcases hdb with hdb | hdb
            · rw [hdb]
              exact ⟨hstart.runs, hstart.directory, hstart.authorities, hstart.requests,
                hstart.decisions, hstart.grants, hstart.idempotency⟩
            · rw [hdb]
              exact ⟨rfl, rfl, rfl, rfl, rfl, rfl, rfl⟩
          refine .idle hsame.1 hsame.2 ?_
          rcases hvault with hvault | ⟨grantId, hvault⟩
          · rw [hvault]
          · rw [hvault]
            exact List.filter_sublist
      | @claimed request grant claim hrequest hgrant _ hchecks hcommit hvault =>
          obtain ⟨hread, happroved⟩ := hloaded request grant hrequest hgrant hchecks
          obtain ⟨mid, claimed, taken, htaken, hqueue⟩ := commitClaim_ok hcommit
          -- The rate limit and the partition come before the claim and leave the approvals alone.
          have hbegin : start.approvals plane.vault = plane.approvals :=
            approvals_eq hstart.toSameApprovals plane.vault
          have hmoved := htaken.moves (hbegin ▸ hv) (hread.of_same hstart.toSameApprovals)
            happroved
          obtain ⟨r, r', hruns, hrunId, hterms, hsame⟩ := queueClaimedRun_run hqueue
          have hend : next.approvals = mid.approvals (plane.vault.discard grant.grantId) := by
            show next.db.approvals next.vault = _
            rw [hvault]
            unfold Db.approvals
            rw [hsame.requests, hsame.decisions, hsame.grants]
          rw [hbegin, ← hend] at hmoved
          rw [htaken.quiet.runs, hstart.runs] at hruns
          have hid : claimed.requestId = request.requestId := by rw [htaken.claimed_terms]
          have horg : r'.organizationId = organizationId := by
            rw [hterms.terms]
            exact hterms.organization
          exact .taken hrequest hgrant hchecks hmoved hruns hid hterms
            (hreply claim rfl r' hruns.new_mem horg (hruns.same_key.trans hrunId))

theorem claimProductionRun_advanced {actor : ActorContext} {organizationId : OrganizationId}
    {runId : RunId} {expectedVersion : Nat} {now : Time} {reads : RunClaimReads}
    {reply : Except Failure ProductionRun} (hg : Governed plane)
    (hloaded : ∀ request grant, reads.rows.request = some request →
      reads.rows.grant = some grant → reads.checks = .ok () →
      Loaded plane.db request grant ∧ request.status = .approved)
    (h : claimProductionRun actor organizationId runId expectedVersion now reads plane =
      .ok (reply, next)) : Advanced plane next := by
  cases claimProductionRun_end hg.valid hloaded h with
  | idle hruns hsame hvault => exact (spared_of_same hg hruns hsame hvault).toAdvanced
  | @taken request request' claimed grant grant' claim r r' _ _ _ hmoved hruns hclaimed hterms _ =>
      have hnext := Approvals.Next.move hmoved
      have hmine : r.approvalRequestId = some request.requestId := by
        rw [← hclaimed]
        exact hterms.approval
      have hkept : r'.approvalRequestId = r.approvalRequestId := by rw [hterms.terms]
      obtain ⟨hbefore, hregistry⟩ := hmoved.registry hg.valid (hnext.valid hg.valid)
      refine ⟨.single hnext, hg.runs.replaced hruns hkept hnext.requests hnext.grants ?_ ?_ ?_,
        origins_of_replaces hruns hkept⟩
      -- No other permit moves, and this one is now with the execution of the run.
      · intro k hk
        rw [hregistry, Function.update_of_ne]
        intro hsame
        rw [hsame] at hk
        exact hk hmine
      · intro k hk
        rw [hmine] at hk
        cases hk
        obtain ⟨x, hx, hxid, hxorg⟩ := (hg.runs.bound r hruns.mem _ hmine).request
        obtain ⟨x', hx', hxid', hlater⟩ := hnext.requests x hx
        have hxkept := congrArg ApprovalRequest.organizationId hlater.1
        refine ⟨⟨x', hx', hxid'.trans hxid, ?_⟩, ?_, .taken claim.executionId, ?_, ?_⟩
        · rw [hterms.terms]
          exact hxkept.trans hxorg
        · intro e _
          refine ⟨grant', hmoved.grant.new_mem, ?_, ?_⟩
          · rw [hterms.terms]
          · exact (ApprovalGrant.ids_of_fixed hmoved.terms).2.trans hmoved.pair
        · rw [hregistry, Function.update_self]
        · rw [hterms.status]
          refine ⟨claim.executionId, ?_, rfl⟩
          rw [hterms.terms]
      · intro hnone
        rw [hmine] at hnone
        cases hnone

/-! ## Cancellation -/

omit [Sha256] in
theorem cancelOutbox_same {organizationId : OrganizationId} {outbox : Option DispatchOutbox}
    {now : Time} (h : cancelOutbox organizationId outbox now db = .ok after) :
    after.runs = db.runs ∧ db.SameApprovals after := by
  unfold cancelOutbox at h
  split at h
  · cases h
    exact ⟨rfl, rfl, rfl, rfl, rfl, rfl, rfl⟩
  · obtain ⟨db₁, hupdate, h⟩ := ok_of_bind h
    obtain ⟨rfl, _⟩ := Db.updateOutbox_ok hupdate
    obtain ⟨rfl, _⟩ := Db.updatePartition_ok h
    exact ⟨rfl, rfl, rfl, rfl, rfl, rfl, rfl⟩

theorem cancelLocked_spared {actor : ActorContext} {organizationId : OrganizationId}
    {run : ProductionRun} {outbox : Option DispatchOutbox} {now : Time} {start : Db}
    {reply : Except Failure ProductionRun} (hg : Governed plane) (hstart : plane.db.Idle start)
    (hrun : run ∈ start.runs.rows) (horg : run.organizationId = organizationId)
    (hstatus : run.status = .waitingApproval ∨ run.status.executing)
    (h : cancelLocked actor organizationId run outbox now plane start = .ok (reply, next)) :
    Spared plane next := by
  unfold cancelLocked at h
  obtain ⟨db₁, hout, h⟩ := ok_of_bind h
  obtain ⟨⟨grantId, db₂⟩, happroval, h⟩ := ok_of_bind h
  obtain ⟨hruns, hsame⟩ := cancelOutbox_same hout
  have hbegin : db₁.approvals plane.vault = plane.approvals := by
    have hfirst : db₁.approvals plane.vault = start.approvals plane.vault := by
      unfold Db.approvals
      rw [hsame.requests, hsame.decisions, hsame.grants]
    exact hfirst.trans (approvals_eq hstart.toSameApprovals plane.vault)
  have hmem : run ∈ plane.db.runs.rows := by
    rw [← hstart.runs]
    exact hrun
  have hvalid : (db₁.approvals plane.vault).Valid := hbegin ▸ hg.valid
  have hsettled := cancelApproval_settled hvalid
    (fun k hk => hbegin ▸ hg.runs.bound run hmem k hk) hstatus horg happroval
  obtain ⟨requests, grants, audit, rfl⟩ := cancelApproval_ok happroval
  dsimp only at h
  obtain ⟨⟨sequence, db₃⟩, haudit, h⟩ := ok_of_bind h
  obtain ⟨audit', rfl⟩ := appendAuditEvent_ok haudit
  dsimp only at h
  obtain ⟨db₄, htrace, h⟩ := ok_of_bind h
  obtain ⟨traces, rfl⟩ := appendObservabilityEvent_ok htrace
  have hmem₁ : run ∈ db₁.runs.rows := by
    rw [hruns]
    exact hrun
  have hend : next.approvals = Approvals.mk requests db₁.decisions grants
        (discarded plane.vault grantId) ∧
      ∃ r', Table.Replaces db₁.runs next.db.runs run r' ∧ r'.fixed = run.fixed ∧
        r'.status = .cancelled := by
    cases h
    refine ⟨?_, _, Table.replaces_update hmem₁ (by simp) (by simp), rfl, rfl⟩
    cases grantId <;> rfl
  obtain ⟨hnext, r', hrows, hfixed, hcancelled⟩ := hend
  rw [hbegin] at hsettled
  rw [hruns, hstart.runs] at hrows
  have hdone : Settled plane.approvals next.approvals run r'.status := by
    rw [hnext, hcancelled]
    exact hsettled
  have happrovalId := congrArg ProductionRun.approvalRequestId hfixed
  exact ⟨⟨hdone.run, hg.runs.settled hrows hfixed (by rw [hcancelled]; decide) hdone,
    origins_of_replaces hrows happrovalId⟩,
    hdone.executions fun k hk => hg.runs.bound run hmem k hk⟩

theorem cancelProductionRun_spared {actor : ActorContext} {organizationId : OrganizationId}
    {runId : RunId} {expectedVersion : Nat} {now : Time} {current : Option ProductionRun}
    {reply : Except Failure ProductionRun} (hg : Governed plane)
    (h : cancelProductionRun actor organizationId runId expectedVersion now current plane =
      .ok (reply, next)) : Spared plane next := by
  unfold cancelProductionRun at h
  split at h
  · cases h
  obtain ⟨⟨limited, db₁⟩, hlimit, h⟩ := ok_of_bind h
  have hidle := rateLimit_idle hlimit
  dsimp only at h
  split at h
  · cases h
    exact spared_of_same hg hidle.runs hidle.toSameApprovals (List.Sublist.refl _)
  split at h
  · cases h
  split at h
  · cases h
  split at h
  · split at h
    · cases h
    next run hrun =>
      obtain ⟨hmem, hcondition⟩ := Table.one?_mem hrun
      obtain ⟨horg, _, _, hwaiting⟩ := of_decide_eq_true hcondition
      exact cancelLocked_spared hg hidle hmem horg (.inl hwaiting) h
  split at h
  · have hstart := hidle.trans (ensurePartition_idle db₁ organizationId now).1
    split at h
    · cases h
    next run hrun =>
      obtain ⟨hmem, hcondition⟩ := Table.one?_mem hrun
      obtain ⟨horg, _, _, hqueued⟩ := of_decide_eq_true hcondition
      have hopen : run.status.executing := by
        rcases hqueued with hqueued | hqueued <;> rw [hqueued] <;>
          exact ⟨by decide, by decide⟩
      split at h
      · cases h
      · exact cancelLocked_spared hg hstart hmem horg (.inr hopen) h
  · cases h

end Control

end FlowPilot
