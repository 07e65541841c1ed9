import FlowPilot.Dispatch.Service

/-!
# What the services keep of an admission

An admission inserts one run with its idempotency record, and no other operation inserts either.
The columns of the run that the admission decides on are never written again.
-/

open FlowPilot.Lib Relation

namespace FlowPilot

open Control (Admission Admitted Plane)

/-- What nothing changes about a run from its admission on. -/
def ProductionRun.accepted (r : ProductionRun) : ProductionRun :=
  { r.fixed with
    grantId := none
    executionId := none
    authorizationHash := ⟨0⟩
    approvalSetHash := none
    queuedAt := none }

theorem ProductionRun.accepted_of_fixed {r r' : ProductionRun} (h : r'.fixed = r.fixed) :
    r'.accepted = r.accepted := by
  unfold accepted
  rw [h]

namespace Db

/-- No approval request goes away. -/
def KeepsRequests (db after : Db) : Prop :=
  ∀ k, (db.requests.get? k).isSome → (after.requests.get? k).isSome

/-- The admissions of the store stay as they are. -/
structure SameAdmissions (db after : Db) : Prop where
  runs : after.runs.rows.map (·.accepted) = db.runs.rows.map (·.accepted)
  idempotency : after.idempotency = db.idempotency
  requests : KeepsRequests db after

/-- What a committed transaction does to the admissions. -/
inductive Admits [Sha256] (db after : Db) : Prop where
  | same (h : SameAdmissions db after)
  | admitted {a : Admission} {run : ProductionRun} (h : Admitted a db after run)

variable {db mid after : Db}

theorem KeepsRequests.of_eq (h : after.requests = db.requests) : KeepsRequests db after := by
  intro k hk
  rwa [h]

theorem KeepsRequests.trans (h : KeepsRequests db mid) (h' : KeepsRequests mid after) :
    KeepsRequests db after := fun k hk => h' k (h k hk)

theorem keepsRequests_writeRequest (db : Db) (request : ApprovalRequest) :
    KeepsRequests db (Control.writeRequest db request) := by
  intro k hk
  unfold Control.writeRequest
  rwa [Table.isSome_get?_update]

theorem SameAdmissions.of_idle (h : Idle db after) : SameAdmissions db after :=
  ⟨by rw [h.runs], h.idempotency, .of_eq h.requests⟩

theorem SameAdmissions.moved {o o' : DispatchOutbox} {r r' : ProductionRun}
    (h : Move db mid o o' r r') (hsame : SameApprovals db mid) : SameAdmissions db mid where
  runs := h.runs.map_rows (ProductionRun.accepted_of_fixed h.run_fixed)
  idempotency := hsame.idempotency
  requests := .of_eq hsame.requests

/-- The approval of a run is written after its row. -/
theorem SameAdmissions.approval {requests : Table ApprovalRequest} {grants : Table ApprovalGrant}
    {audit : AuditLog} (h : SameAdmissions db mid)
    (hrequests : KeepsRequests mid
      { mid with requests := requests, grants := grants, audit := audit }) :
    SameAdmissions db { mid with requests := requests, grants := grants, audit := audit } :=
  ⟨h.runs, h.idempotency, h.requests.trans hrequests⟩

/-- What an admission decides on holds of every run when it holds of the new one. -/
theorem Admits.forall_runs [Sha256] {P : ProductionRun → Prop} (h : Admits db after)
    (hkept : ∀ r r', r'.accepted = r.accepted → P r → P r')
    (hnew : ∀ a run, Admitted a db after run → P run) (hall : ∀ r ∈ db.runs.rows, P r) :
    ∀ r ∈ after.runs.rows, P r := by
  cases h with
  | same h =>
    intro r' hr'
    have hmem := List.mem_map_of_mem (f := ProductionRun.accepted) hr'
    rw [h.runs] at hmem
    obtain ⟨r, hr, hsame⟩ := List.mem_map.mp hmem
    exact hkept r r' hsame.symm (hall r hr)
  | @admitted a run h =>
    obtain ⟨hfresh, hruns⟩ := h.runs
    rw [hruns]
    exact Table.forall_insert hfresh hall (hnew a run h)

end Db

section

variable [Sha256] {db after : Db} {plane next : Plane}

/-! ## The requests of runs that end -/

theorem Worker.failApproval_requests {w : Worker.Repository} {run : ProductionRun}
    {reason : TerminalReason} {now : Time}
    (h : Worker.failApproval w db run reason now = .ok after) : db.KeepsRequests after := by
  unfold Worker.failApproval at h
  split at h
  · dsimp only at h
    split at h
    · split at h
      · obtain ⟨⟨sequence, db₁⟩, haudit, h⟩ := ok_of_bind h
        obtain ⟨audit, rfl⟩ := Worker.appendAudit_ok haudit
        cases h
        intro k hk
        rwa [Table.isSome_get?_update]
      · cases h
        exact .of_eq rfl
    · cases h
      exact .of_eq rfl
  · cases h
    exact .of_eq rfl

theorem Worker.completeApproval_requests {item : Worker.WorkItem} {successful : Bool}
    {receiptReference : String} {now : Time}
    (h : Worker.completeApproval db item successful receiptReference now = .ok after) :
    db.KeepsRequests after := by
  unfold Worker.completeApproval at h
  split at h
  · dsimp only at h
    split at h
    · cases h
    · obtain ⟨⟨sequence, db₁⟩, haudit, h⟩ := ok_of_bind h
      obtain ⟨audit, rfl⟩ := Worker.appendAudit_ok haudit
      cases h
      intro k hk
      rwa [Table.isSome_get?_update]
  · obtain ⟨⟨sequence, db₁⟩, haudit, h⟩ := ok_of_bind h
    obtain ⟨audit, rfl⟩ := Worker.appendAudit_ok haudit
    cases h
    exact .of_eq rfl

theorem Control.cancelApproval_requests {actor : Control.ActorContext}
    {organizationId : OrganizationId} {requestId : Option RequestId} {now : Time}
    {grantId : Option GrantId}
    (h : Control.cancelApproval actor organizationId requestId now db = .ok (grantId, after)) :
    db.KeepsRequests after := by
  unfold Control.cancelApproval at h
  split at h
  · cases h
    exact .of_eq rfl
  obtain ⟨mid, hrequest, hgrant⟩ := ok_of_bind h
  obtain ⟨grants, audit, rfl⟩ := Control.cancelGrant_ok hgrant
  refine Db.KeepsRequests.trans ?_ (.of_eq rfl)
  unfold Control.cancelRequest at hrequest
  split at hrequest
  · cases hrequest
    exact .of_eq rfl
  · split at hrequest
    · obtain ⟨⟨sequence, db₁⟩, haudit, hrequest⟩ := ok_of_bind hrequest
      obtain ⟨audit', rfl⟩ := Control.appendAuditEvent_ok haudit
      cases hrequest
      exact Db.KeepsRequests.trans (.of_eq rfl) (Db.keepsRequests_writeRequest _ _)
    · cases hrequest
      exact .of_eq rfl

/-! ## What each operation does to the admissions -/

theorem Worker.Worked.sameAdmissions {w : Worker.Repository} {item : Worker.WorkItem}
    (h : Worker.Worked w item db after) : db.SameAdmissions after := by
  cases h with
  | logged h =>
      obtain ⟨audit, traces, rfl⟩ := h.tables
      exact ⟨rfl, rfl, .of_eq rfl⟩
  | moved h _ hsame => exact .moved h hsame
  | failed h _ hsame happroval =>
      have hrequests := Worker.failApproval_requests happroval
      obtain ⟨requests, grants, audit, rfl⟩ := Worker.failApproval_ok happroval
      exact (Db.SameAdmissions.moved h hsame).approval hrequests
  | completed h _ hsame _ happroval =>
      have hrequests := Worker.completeApproval_requests happroval
      obtain ⟨requests, grants, audit, rfl⟩ := Worker.completeApproval_ok happroval
      exact (Db.SameAdmissions.moved h hsame).approval hrequests

theorem Worker.Claimed.sameAdmissions {w : Worker.Repository} {reply : Option Worker.WorkItem}
    (h : Worker.Claimed w db after reply) : db.SameAdmissions after := by
  cases h with
  | nothing h hsame => exact ⟨by rw [h.runs], hsame.idempotency, .of_eq hsame.requests⟩
  | leased h _ hsame => exact .moved h hsame
  | expired h _ hsame => exact .moved h hsame
  | exhausted h _ hsame happroval =>
      have hrequests := Worker.failApproval_requests happroval
      obtain ⟨requests, grants, audit, rfl⟩ := Worker.failApproval_ok happroval
      exact (Db.SameAdmissions.moved h hsame).approval hrequests

omit [Sha256] in
theorem Control.RunClaimResult.sameAdmissions {actor : Control.ActorContext}
    {organizationId : OrganizationId} {runId : RunId} {now : Time}
    {reads : Control.RunClaimReads}
    (h : Control.RunClaimResult actor organizationId runId now reads db after) :
    db.SameAdmissions after := by
  cases h with
  | idle h => exact .of_idle h
  | queued _ _ _ _ _ _ hstart htaken _ hruns _ hterms hrequests _ hidempotency =>
      refine ⟨hruns.map_rows ?_, hidempotency, ?_⟩
      · rw [hterms.terms]
        rfl
      · refine Db.KeepsRequests.trans (.of_eq hstart.requests) ?_
        intro k hk
        rw [hrequests, htaken.requests]
        exact Db.keepsRequests_writeRequest _ _ k hk

theorem Control.CancelResult.sameAdmissions {actor : Control.ActorContext}
    {organizationId : OrganizationId} {now : Time}
    (h : Control.CancelResult actor organizationId now db after) : db.SameAdmissions after := by
  have hkept : ∀ {start mid : Db} {requestId : Option RequestId} {grantId : Option GrantId},
      Control.cancelApproval actor organizationId requestId now start = .ok (grantId, mid) →
      start.requests = db.requests → after.requests = mid.requests → db.KeepsRequests after := by
    intro start mid requestId grantId happroval hstart hrequests
    exact Db.KeepsRequests.trans (.of_eq hstart)
      (Db.KeepsRequests.trans (Control.cancelApproval_requests happroval) (.of_eq hrequests))
  cases h with
  | idle h => exact .of_idle h
  | withdrawn hstart h hfixed _ happroval hrequests _ hidempotency =>
      exact ⟨h.runs.map_rows (ProductionRun.accepted_of_fixed hfixed), hidempotency,
        hkept happroval hstart.requests hrequests⟩
  | moved hsame h _ _ happroval hrequests _ hidempotency =>
      exact ⟨h.runs.map_rows (ProductionRun.accepted_of_fixed h.run_fixed), hidempotency,
        hkept happroval hsame.1 hrequests⟩

theorem Control.AdmitResult.admits {a : Admission} {reply : Except Failure ProductionRun}
    (h : Control.AdmitResult a plane next reply) : plane.db.Admits next.db := by
  cases h with
  | rejected hidle _ => exact .same (.of_idle hidle)
  | admitted h => exact .admitted h

theorem Call.commit_admits {c : Call} {reply : Option Worker.WorkItem}
    (hc : plane.db.Consistent)
    (hitem : ∀ item, c.item? = some item → Worker.Issued plane.db item)
    (h : c.commit plane = .ok (reply, next)) : plane.db.Admits next.db := by
  cases hkind : c.item? with
  | some item =>
      obtain ⟨_, w, hworked⟩ := c.commit_worked hc hkind (hitem item hkind) h
      exact .same hworked.sameAdmissions
  | none =>
      cases c <;> cases hkind
      case none.admitRun.refl =>
        obtain ⟨result, hbody, _⟩ := onPlane_ok h
        exact (Control.admitLocked_ok hc hbody).admits
      case none.claimRun.refl =>
        obtain ⟨result, hbody, _⟩ := onPlane_ok h
        exact .same (Control.claimProductionRun_ok hc hbody).sameAdmissions
      case none.cancel.refl =>
        obtain ⟨result, hbody, _⟩ := onPlane_ok h
        exact .same (Control.cancelProductionRun_ok hc hbody).sameAdmissions
      case none.claimNext.refl =>
        obtain ⟨a, db, hbody, _, rfl⟩ := onDb_ok h
        exact .same (Worker.claimNext_ok hc hbody).sameAdmissions

theorem World.Step.admits {world next : World} (hv : world.Valid) (h : World.Step world next) :
    world.plane.db.Admits next.plane.db := by
  cases h with
  | call hitem hcommit =>
      exact Call.commit_admits hv.consistent (fun item h => hv.issued item (hitem item h)) hcommit
  | approvals h =>
      exact .same ⟨congrArg (fun runs => runs.rows.map (·.accepted)) h.runs, h.idempotency,
        h.requests⟩

end

end FlowPilot
