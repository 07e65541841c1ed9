import FlowPilot.Approvals.RunSteps
import FlowPilot.Dispatch.Service

/-!
# Every transaction governs its runs

Each transaction of either service takes the approval tables through transitions and leaves every
run bound to its permit.
-/

open FlowPilot.Lib Relation

namespace FlowPilot

open Approvals (Bound Unbound RunsBound Settled Next)
open Control (Plane Administered Operated SameTaken)

/-- The approval tables are valid and the runs bound to them. -/
structure Governed [Sha256] (plane : Plane) : Prop where
  valid : plane.approvals.Valid
  runs : RunsBound plane.db.runs plane.approvals

/-- A run is one with an approval that a run had before, or its request is new. -/
def Origins (plane next : Plane) : Prop :=
  ∀ r' ∈ next.db.runs.rows, ∀ k, r'.approvalRequestId = some k →
    (∃ r ∈ plane.db.runs.rows, r.approvalRequestId = some k) ∨
      ∀ x ∈ plane.db.requests.rows, x.requestId ≠ k

theorem origins_of_runs {plane next : Plane} (h : next.db.runs = plane.db.runs) :
    Origins plane next := by
  intro r hr k hk
  rw [h] at hr
  exact .inl ⟨r, hr, hk⟩

theorem origins_of_replaces {plane next : Plane} {r r' : ProductionRun}
    (h : Table.Replaces plane.db.runs next.db.runs r r')
    (happroval : r'.approvalRequestId = r.approvalRequestId) : Origins plane next := by
  intro x hx k hk
  rcases h.mem_iff.mp hx with rfl | ⟨hold, _⟩
  · exact .inl ⟨r, h.mem, happroval ▸ hk⟩
  · exact .inl ⟨x, hold, hk⟩

/-- What a transaction does to the approval tables and the runs. -/
structure Advanced [Sha256] (plane next : Plane) : Prop where
  transitions : ReflTransGen Next plane.approvals next.approvals
  runs : RunsBound next.db.runs next.approvals
  origins : Origins plane next

/-- What a transaction does that is not a claim: nobody takes a permit. -/
structure Spared [Sha256] (plane next : Plane) : Prop extends Advanced plane next where
  executions : plane.approvals.registry.SameExecutions next.approvals.registry

variable [Sha256] {plane next : Plane}

theorem Advanced.governed (h : Advanced plane next) (hg : Governed plane) : Governed next :=
  ⟨hg.valid.of_run h.transitions, h.runs⟩

omit [Sha256] in
theorem approvals_eq {db : Db} (hsame : plane.db.SameApprovals db) (vault : Control.Vault) :
    db.approvals vault = plane.db.approvals vault := by
  unfold Db.approvals
  rw [hsame.requests, hsame.decisions, hsame.grants]

omit [Sha256] in
theorem Approvals.RunsBound.with_vault {runs : Table ProductionRun} {s : Approvals}
    (h : RunsBound runs s) (vault : Control.Vault) : RunsBound runs { s with vault := vault } where
  bound := by
    intro r hr k hk
    obtain ⟨hrequest, hgrant, hpermit⟩ := h.bound r hr k hk
    exact ⟨hrequest, hgrant, hpermit⟩
  unbound := h.unbound
  single := h.single

/-- Runs and approvals are as they were. -/
theorem spared_of_same (hg : Governed plane) (hruns : next.db.runs = plane.db.runs)
    (hsame : plane.db.SameApprovals next.db)
    (hvault : next.vault.entries.Sublist plane.vault.entries) : Spared plane next := by
  have happrovals : next.approvals = { plane.approvals with vault := next.vault } :=
    approvals_eq hsame next.vault
  refine ⟨⟨.single (.forget hvault happrovals), ?_, origins_of_runs hruns⟩, ?_⟩
  · rw [hruns, happrovals]
    exact hg.runs.with_vault next.vault
  · rw [happrovals]
    exact fun _ => rfl

/-! ## The approval operations -/

/-- The execution that a permit was taken by is that of the grant. -/
theorem Approvals.Valid.execution_iff {s : Approvals} (h : s.Valid) {k : RequestId}
    {p : Permit ExecutionId} (hp : s.registry k = some p) (e : ExecutionId) :
    p.execution = some e ↔
      ∃ g ∈ s.grants.rows, g.requestId = k ∧ g.executionId = some e := by
  constructor
  · intro he
    apply Approvals.executionAt_grant
    unfold Permit.Registry.executionAt
    rw [hp, Option.bind_some, he]
  · rintro ⟨g, hg, hid, he⟩
    unfold Approvals.registry at hp
    obtain ⟨x, _, hx⟩ := Option.bind_eq_some_iff.mp hp
    rw [Approvals.grantOf_of_mem h.single hg hid] at hx
    rw [permitOf_execution hx, he]

/-- While the grants that were taken stay as they are, so do their permits. -/
theorem spares_of_sameTaken {s t : Approvals} (hs : s.Valid) (hrun : ReflTransGen Next s t)
    (h : SameTaken s t) : s.registry.Spares t.registry := by
  have ht := hs.of_run hrun
  have hadvances := Permit.Registry.advances_of_run (Approvals.registry_of_run hs hrun)
  refine ⟨hadvances, ?_, ?_⟩
  · intro k p q hp hq
    ext e
    rw [ht.execution_iff hq, hs.execution_iff hp]
    constructor
    · rintro ⟨g, hg, hid, he⟩
      exact ⟨g, (h g (by rw [he]; rfl)).mp hg, hid, he⟩
    · rintro ⟨g, hg, hid, he⟩
      exact ⟨g, (h g (by rw [he]; rfl)).mpr hg, hid, he⟩
  -- A permit that is taken is that of a claimed grant, and such a grant is the same row.
  · intro k e hp
    obtain ⟨g, hg, hid, he⟩ := (hs.execution_iff hp e).mp rfl
    have hclaimed : g.status = .claimed := by
      unfold Approvals.registry at hp
      obtain ⟨x, _, hx⟩ := Option.bind_eq_some_iff.mp hp
      rw [Approvals.grantOf_of_mem hs.single hg hid] at hx
      rcases permitOf_some hx with ⟨_, _, _, hp'⟩ | ⟨_, _, _, hp'⟩ |
        ⟨_, _, ⟨_, hg', _⟩ | ⟨_, _, hp'⟩ | ⟨_, _, hp'⟩⟩
      case inr.inr.inl => exact hg'
      all_goals cases hp'
    obtain ⟨q, hq, _⟩ := hadvances k _ hp
    have hg' := (h g (by rw [he]; rfl)).mpr hg
    rw [hq]
    unfold Approvals.registry at hq
    obtain ⟨x, _, hx⟩ := Option.bind_eq_some_iff.mp hq
    rw [Approvals.grantOf_of_mem ht.single hg' hid] at hx
    obtain ⟨_, e', he', rfl⟩ := permitOf_claimed hx hclaimed
    rw [he] at he'
    rw [Option.some.inj he']

/-- The executions that have taken permits are those of the grants. -/
theorem Approvals.Valid.executionAt_iff {s : Approvals} (h : s.Valid) {k : RequestId}
    {e : ExecutionId} : s.registry.executionAt k = some e ↔
      ∃ g ∈ s.grants.rows, g.requestId = k ∧ g.executionId = some e := by
  constructor
  · exact Approvals.executionAt_grant
  · rintro ⟨g, hg, hid, he⟩
    obtain ⟨r, hr, hfor, _⟩ := h.request_of_grant hg
    obtain ⟨p, hp⟩ := h.permit_of_grant hr hg hfor.request
    have hregistry : s.registry k = some p := by
      rw [← hid, hfor.request, Approvals.registry_of_mem hr,
        Approvals.grantOf_of_mem h.single hg hfor.request, hp]
    unfold Permit.Registry.executionAt
    rw [hregistry, Option.bind_some, permitOf_execution hp, he]

theorem sameExecutions_of_sameTaken {s t : Approvals} (hs : s.Valid) (ht : t.Valid)
    (h : SameTaken s t) : s.registry.SameExecutions t.registry := by
  intro k
  ext e
  rw [ht.executionAt_iff, hs.executionAt_iff]
  constructor
  · rintro ⟨g, hg, hid, he⟩
    exact ⟨g, (h g (by rw [he]; rfl)).mp hg, hid, he⟩
  · rintro ⟨g, hg, hid, he⟩
    exact ⟨g, (h g (by rw [he]; rfl)).mpr hg, hid, he⟩

theorem Administered.spared (h : Administered plane next) (hg : Governed plane) :
    Spared plane next where
  transitions := h.transitions
  runs := by
    rw [h.runs]
    refine hg.runs.of_permits (Approvals.requests_of_run h.transitions)
      (Approvals.grants_of_run h.transitions) ?_
    intro r _ k p _ hp hagrees
    exact Approvals.agreesPermit_spared (spares_of_sameTaken hg.valid h.transitions h.taken) hp
      hagrees
  origins := origins_of_runs h.runs
  executions := sameExecutions_of_sameTaken hg.valid (hg.valid.of_run h.transitions) h.taken

/-- A permit moves that no run has. -/
theorem advanced_of_moved (hg : Governed plane) (hoperated : Operated plane next)
    {r r' : ApprovalRequest} {g g' : ApprovalGrant} {p q : Permit ExecutionId}
    (hmoved : plane.approvals.Moved next.approvals r r' g g' p q)
    (hrun : ∀ run ∈ plane.db.runs.rows, run.approvalRequestId ≠ some r.requestId) :
    Advanced plane next where
  transitions := hoperated.transitions
  runs := by
    have hvalid := hg.valid.of_run hoperated.transitions
    obtain ⟨_, hregistry⟩ := hmoved.registry hg.valid hvalid
    rw [hoperated.runs]
    refine hg.runs.of_permits (Approvals.requests_of_run hoperated.transitions)
      (Approvals.grants_of_run hoperated.transitions) ?_
    intro run hmem k p hk hp hagrees
    refine ⟨p, ?_, hagrees⟩
    rw [hregistry, Function.update_of_ne, hp]
    exact fun hsame => hrun run hmem (hsame ▸ hk)
  origins := origins_of_runs hoperated.runs

theorem completeExecutionClaim_spared {actor : Control.ActorContext}
    {organizationId : OrganizationId} {executionId : ExecutionId} {receiptReference : String}
    {now : Time} {reply : Except Failure Unit} (hg : Governed plane)
    (hrun : ∀ run ∈ plane.db.runs.rows, run.executionId ≠ some executionId)
    (h : Control.completeExecutionClaim actor organizationId executionId receiptReference now
      plane = .ok (reply, next)) : Operated plane next ∧ Spared plane next := by
  obtain ⟨hoperated, r, r', g, g', hmoved⟩ := Control.completeExecutionClaim_operated hg.valid h
  obtain ⟨hbefore, hregistry⟩ :=
    hmoved.registry hg.valid (hg.valid.of_run hoperated.transitions)
  refine ⟨hoperated, advanced_of_moved hg hoperated hmoved ?_, ?_⟩
  -- A run with this permit would have the execution that is completed.
  · intro run hmem hk
    obtain ⟨p, hp, hagrees⟩ := (hg.runs.bound run hmem _ hk).permit
    rw [hbefore] at hp
    rw [← Option.some.inj hp] at hagrees
    exact hrun run hmem (Approvals.execution_of_agrees hagrees).symm
  · rw [hregistry]
    apply Permit.Registry.sameExecutions_update
    unfold Permit.Registry.executionAt
    rw [hbefore]
    rfl

/-- A claim without a run; its reads have found the request without one. -/
theorem claimGrant_advanced {actor : Control.ActorContext} {organizationId : OrganizationId}
    {requestId : RequestId} {now : Time} {rows : Control.ClaimRows} {checks : Except Failure Unit}
    {reply : Except Failure Control.ExecutionClaim} (hg : Governed plane)
    (hloaded : ∀ request grant, rows.request = some request → rows.grant = some grant →
      checks = .ok () → Control.Loaded plane.db request grant ∧ request.status = .approved)
    (hproduction : ∀ request, rows.request = some request → rows.production = false →
      ∀ run ∈ plane.db.runs.rows, run.approvalRequestId ≠ some request.requestId)
    (h : Control.claimGrant actor organizationId requestId now none rows checks plane.db plane =
      .ok (reply, next)) : Operated plane next ∧ Advanced plane next := by
  rcases Control.claimGrant_operated hg.valid hloaded h with hadministered |
    ⟨hoperated, hdirect, r, g, hrequest, _, _, r', g', claim, _, hmoved⟩
  · exact ⟨hadministered.toOperated, (Administered.spared hadministered hg).toAdvanced⟩
  · exact ⟨hoperated, advanced_of_moved hg hoperated hmoved (hproduction r hrequest hdirect)⟩

/-! ## The worker -/

omit [Sha256] in
theorem Db.Move.executing {db after : Db} {o o' : DispatchOutbox} {r r' : ProductionRun}
    (h : Db.Move db after o o' r r') : r.status.executing :=
  ⟨OutboxStatus.agrees_not_waiting h.before.status,
    (OutboxStatus.agrees_active h.before.status).mp h.active⟩

omit [Sha256] in
theorem Db.Move.bound {mid : Db} {o o' : DispatchOutbox} {r r' : ProductionRun}
    (h : Db.Move plane.db mid o o' r r') (hg : RunsBound plane.db.runs plane.approvals) :
    ∀ k, r.approvalRequestId = some k → plane.approvals.Bound r k :=
  fun k hk => hg.bound r h.runs.mem k hk

/-- A run moves in the queue or out of it, and its approval is settled. -/
theorem spared_of_move {mid db : Db} {o o' : DispatchOutbox} {r r' : ProductionRun}
    (hg : Governed plane) (h : Db.Move plane.db mid o o' r r') (hruns : db.runs = mid.runs)
    (hsettled : Settled plane.approvals (db.approvals plane.vault) r r'.status) :
    Spared plane { plane with db := db } where
  transitions := hsettled.run
  runs := by
    show RunsBound db.runs (db.approvals plane.vault)
    rw [hruns]
    exact hg.runs.settled h.runs h.run_fixed (OutboxStatus.agrees_not_waiting h.coupled.status)
      hsettled
  origins := by
    have hreplaces : Table.Replaces plane.db.runs db.runs r r' := by
      rw [hruns]
      exact h.runs
    have hsame := congrArg ProductionRun.approvalRequestId h.run_fixed
    exact origins_of_replaces hreplaces hsame
  executions := hsettled.executions (h.bound hg.runs)

/-- The run keeps its approval. -/
theorem spared_of_kept {db : Db} {o o' : DispatchOutbox} {r r' : ProductionRun}
    (hg : Governed plane) (h : Db.Move plane.db db o o' r r')
    (hsame : plane.db.SameApprovals db)
    (hstatus : r'.status.executing ∨ r'.status = .expired) :
    Spared plane { plane with db := db } := by
  apply spared_of_move hg h rfl
  rw [approvals_eq hsame]
  exact Settled.same (h.bound hg.runs) h.executing hstatus

theorem spared_of_failed {w : Worker.Repository} {mid db : Db} {o o' : DispatchOutbox}
    {r r' : ProductionRun} {reason : TerminalReason} {now : Time} (hg : Governed plane)
    (h : Db.Move plane.db mid o o' r r') (hstatus : r'.status = .failed)
    (hsame : plane.db.SameApprovals mid)
    (happroval : Worker.failApproval w mid r reason now = .ok db) :
    Spared plane { plane with db := db } := by
  have hmid : mid.approvals plane.vault = plane.approvals := approvals_eq hsame plane.vault
  have hruns : db.runs = mid.runs := by
    obtain ⟨requests, grants, audit, rfl⟩ := Worker.failApproval_ok happroval
    rfl
  apply spared_of_move hg h hruns
  rw [hstatus, ← hmid]
  apply Worker.failApproval_settled (hmid ▸ hg.valid) ?_ h.executing happroval
  rw [hmid]
  exact h.bound hg.runs

theorem Worker.Claimed.spared {w : Worker.Repository} {db : Db} {item : Option Worker.WorkItem}
    (hg : Governed plane) (h : Worker.Claimed w plane.db db item) :
    Spared plane { plane with db := db } := by
  cases h with
  | nothing h hsame => exact spared_of_same hg h.runs hsame (List.Sublist.refl _)
  | leased h hleased hsame =>
      apply spared_of_kept hg h hsame
      have hactive : OutboxStatus.active .leased := .inr (.inl rfl)
      have hagrees := h.coupled.status
      rw [hleased.status] at hagrees
      exact .inl ⟨OutboxStatus.agrees_not_waiting hagrees,
        (OutboxStatus.agrees_active hagrees).mp hactive⟩
  | expired h hstatus hsame => exact spared_of_kept hg h hsame (.inr hstatus)
  | exhausted h hstatus hsame happroval => exact spared_of_failed hg h hstatus hsame happroval

omit [Sha256] in
/-- The item names the approval of its run. -/
theorem Issued.approval {db : Db} {item : Worker.WorkItem} (hi : Worker.Issued db item)
    {r : ProductionRun} (hr : r ∈ db.runs.rows) (hrun : item.runId = r.runId) :
    item.organizationId = r.organizationId ∧ item.approvalRequestId = r.approvalRequestId ∧
      item.grantId = r.grantId ∧ item.executionId = r.executionId := by
  obtain ⟨o, _, x, hx, hissued⟩ := hi
  have hid : item.runId = x.runId := by
    rw [hissued.terms]
    rfl
  have hsame : x = r := Table.eq_of_key hx hr (hid.symm.trans hrun)
  rw [← hsame, hissued.terms]
  exact ⟨rfl, rfl, rfl, rfl⟩

theorem Worker.Worked.spared {w : Worker.Repository} {item : Worker.WorkItem} {db : Db}
    (hg : Governed plane) (hi : Worker.Issued plane.db item)
    (h : Worker.Worked w item plane.db db) : Spared plane { plane with db := db } := by
  cases h with
  | logged h =>
      obtain ⟨audit, traces, rfl⟩ := h.tables
      exact spared_of_same hg rfl ⟨rfl, rfl, rfl, rfl, rfl, rfl⟩ (List.Sublist.refl _)
  | moved h hopen hsame =>
      exact spared_of_kept hg h hsame
        (.inl ⟨OutboxStatus.agrees_not_waiting h.coupled.status, hopen⟩)
  | failed h hstatus hsame happroval => exact spared_of_failed hg h hstatus hsame happroval
  | @completed mid o o' r r' now successful receiptReference h hstatus hsame hitem happroval =>
      have hmid : mid.approvals plane.vault = plane.approvals := approvals_eq hsame plane.vault
      have hruns : db.runs = mid.runs := by
        obtain ⟨requests, grants, audit, rfl⟩ := Worker.completeApproval_ok happroval
        rfl
      obtain ⟨horg, hnamed⟩ := Issued.approval hi h.runs.mem hitem
      apply spared_of_move hg h hruns
      rw [hstatus, ← hmid]
      apply Worker.completeApproval_settled (hmid ▸ hg.valid) ?_ h.executing horg hnamed happroval
      rw [hmid]
      exact h.bound hg.runs

end FlowPilot
