import FlowPilot.Approvals.RunPermits

/-!
# What the end of a run does to its approval

The worker fails or completes the approval of a run that ends, and a cancellation ends it
whatever it has come to.
-/

open FlowPilot.Lib Relation

namespace FlowPilot

open Approvals (Bound Settled Moved Next)

variable [Sha256] {db after : Db} {vault : Control.Vault}

/-- The request and the grant that an open run has taken. -/
structure Approvals.Held (s : Approvals) (r : ProductionRun) (k : RequestId)
    (request : ApprovalRequest) (grant : ApprovalGrant) (e : ExecutionId) : Prop where
  request_mem : request ∈ s.requests.rows
  request_id : request.requestId = k
  request_status : request.status = .claimed
  request_organization : request.organizationId = r.organizationId
  grant_mem : grant ∈ s.grants.rows
  grant_id : r.grantId = some grant.grantId
  grant_request : grant.requestId = k
  grant_status : grant.status = .claimed
  grant_organization : grant.organizationId = r.organizationId
  run_execution : r.executionId = some e
  execution : grant.executionId = some e
  permit : permitOf request (some grant) = some (.taken e)

namespace Approvals

variable {s : Approvals} {r : ProductionRun} {k : RequestId}

theorem Bound.held (h : s.Bound r k) (hv : s.Valid) (hopen : r.status.executing) :
    ∃ request grant e, s.Held r k request grant e := by
  obtain ⟨p, hp, hagrees⟩ := h.permit
  obtain ⟨e, he, rfl⟩ := (agreesPermit_open hopen _ _).mp hagrees
  obtain ⟨x, hx, hid, horg⟩ := h.request
  obtain ⟨g, hg, hgid, hgrequest⟩ := h.grant e he
  rw [← hid, registry_of_mem hx, grantOf_of_mem hv.single hg (hgrequest.trans hid.symm)] at hp
  have hboth : x.status = .claimed ∧ g.status = .claimed := by
    rcases permitOf_some hp with ⟨_, _, _, hp'⟩ | ⟨_, _, _, hp'⟩ |
      ⟨_, _, ⟨hx', hg', _⟩ | ⟨_, _, hp'⟩ | ⟨_, _, hp'⟩⟩
    case inr.inr.inl => exact ⟨hx', hg'⟩
    all_goals cases hp'
  obtain ⟨y, hy, hfor⟩ := hv.granted g hg
  have hsame : y = x := Table.eq_of_key hy hx (hfor.request.symm.trans (hgrequest.trans hid.symm))
  rw [hsame] at hfor
  exact ⟨x, g, e, hx, hid, hboth.1, horg, hg, hgid, hgrequest, hboth.2,
    hfor.organization.trans horg, he, (permitOf_execution hp).symm, hp⟩

/-- The permit of a run moves with its request and its grant. -/
theorem Settled.of_moved {t : Approvals} {status : RunStatus} {x x' : ApprovalRequest}
    {g g' : ApprovalGrant} {p q : Permit ExecutionId} (h : Moved s t x x' g g' p q)
    (hv : s.Valid) (hk : r.approvalRequestId = some x.requestId)
    (hagrees : status.agreesPermit r.executionId q) : Settled s t r status := by
  have hnext := Next.move h
  exact .bound hk (.single hnext) (h.registry hv (hnext.valid hv)).2 hagrees

end Approvals

/-! ## The worker -/

namespace Worker

theorem failApproval_settled {w : Repository} {run : ProductionRun} {reason : TerminalReason}
    {now : Time} (hv : (db.approvals vault).Valid)
    (hbound : ∀ k, run.approvalRequestId = some k → (db.approvals vault).Bound run k)
    (hopen : run.status.executing) (h : failApproval w db run reason now = .ok after) :
    Settled (db.approvals vault) (after.approvals vault) run .failed := by
  unfold failApproval at h
  cases hk : run.approvalRequestId with
  | none =>
      rw [hk] at h
      cases h
      exact .unbound hk .refl rfl
  | some k =>
      obtain ⟨x, g, e, hheld⟩ := (hbound k hk).held hv hopen
      have hx : x ∈ db.requests.rows := hheld.request_mem
      have hg : g ∈ db.grants.rows := hheld.grant_mem
      have hrequest : db.requests.one? (fun r => decide (r.organizationId = run.organizationId ∧
          r.requestId = k)) = some x :=
        Control.one?_request hx _ (decide_eq_true ⟨hheld.request_organization, hheld.request_id⟩)
          fun y hy => (of_decide_eq_true hy).2.trans hheld.request_id.symm
      have hgrant : db.grants.one? (fun y => decide (y.organizationId = run.organizationId ∧
          y.grantId = g.grantId ∧ y.requestId = k ∧ y.executionId = some e)) = some g := by
        rw [Table.one?_of_key (k := g.grantId) fun y hy => (of_decide_eq_true hy).2.1,
          ← key_grant, Table.get?_of_mem hg, Option.filter_some, if_pos]
        exact decide_eq_true ⟨hheld.grant_organization, rfl, hheld.grant_request, hheld.execution⟩
      rw [hk, hheld.grant_id, hheld.run_execution] at h
      dsimp only at h
      rw [hrequest, hgrant] at h
      dsimp only at h
      rw [if_pos ⟨hheld.request_status, hheld.grant_status⟩] at h
      obtain ⟨⟨sequence, db₁⟩, haudit, h⟩ := ok_of_bind h
      obtain ⟨audit, rfl⟩ := appendAudit_ok haudit
      cases h
      have hid := hheld.request_id
      refine Settled.of_moved (x := x) (g := g) (p := .taken e) (q := .failed e)
        ⟨⟨Table.replaces_update hx ?_ ?_, rfl, rfl⟩, Table.replaces_update hg ?_ ?_, rfl, rfl,
          hheld.grant_request.trans hid.symm, hheld.permit,
          permitOf_failed (.inl rfl) rfl hheld.execution, .fail e,
          Permit.fresh_of_taken rfl, rfl,
          List.Sublist.refl _, hv.no_credential hg ?_⟩ hv (hk.trans (by rw [hid]))
        ⟨e, hheld.run_execution, rfl⟩
      · exact decide_eq_true ⟨hheld.request_organization, hid, hheld.request_status⟩
      · exact fun y hy => (of_decide_eq_true hy).2.1.trans hid.symm
      · exact decide_eq_true ⟨hheld.grant_organization, rfl, hheld.execution, hheld.grant_status⟩
      · exact fun y hy => (of_decide_eq_true hy).2.1
      · rw [hheld.grant_status]
        decide

theorem completeApproval_settled {item : WorkItem} {run : ProductionRun} {successful : Bool}
    {receiptReference : String} {now : Time} (hv : (db.approvals vault).Valid)
    (hbound : ∀ k, run.approvalRequestId = some k → (db.approvals vault).Bound run k)
    (hopen : run.status.executing) (horg : item.organizationId = run.organizationId)
    (hitem : item.approvalRequestId = run.approvalRequestId ∧ item.grantId = run.grantId ∧
      item.executionId = run.executionId)
    (h : completeApproval db item successful receiptReference now = .ok after) :
    Settled (db.approvals vault) (after.approvals vault) run
      (if successful then .finishedUngraded else .failed) := by
  obtain ⟨hitemRequest, hitemGrant, hitemExecution⟩ := hitem
  unfold completeApproval at h
  cases hk : run.approvalRequestId with
  | none =>
      rw [hitemRequest, hk] at h
      split at h
      next hnone => cases hnone
      next =>
        obtain ⟨⟨sequence, db₁⟩, haudit, h⟩ := ok_of_bind h
        obtain ⟨audit, rfl⟩ := appendAudit_ok haudit
        cases h
        exact .unbound hk .refl rfl
  | some k =>
      obtain ⟨x, g, e, hheld⟩ := (hbound k hk).held hv hopen
      have hx : x ∈ db.requests.rows := hheld.request_mem
      have hg : g ∈ db.grants.rows := hheld.grant_mem
      have hid := hheld.request_id
      rw [hitemGrant, hitemRequest, hk, hheld.grant_id] at h
      dsimp only at h
      split at h
      · cases h
      obtain ⟨⟨sequence, db₁⟩, haudit, h⟩ := ok_of_bind h
      obtain ⟨audit, rfl⟩ := appendAudit_ok haudit
      cases h
      have hq : permitOf
            { x with
              status := if successful then .consumed else .failed
              version := x.version + 1
              updatedAt := now }
            (some
              { g with
                status := if successful then .consumed else .failed
                version := g.version + 1
                receiptReference := some receiptReference
                consumedAt := if successful then some now else none
                updatedAt := now }) =
          some (if successful then .spent e else .failed e) := by
        cases successful
        · exact permitOf_failed (.inl rfl) rfl hheld.execution
        · exact permitOf_spent rfl rfl hheld.execution
      have hnext : Permit.Next (.taken e) (if successful then .spent e else .failed e) := by
        cases successful
        · exact .fail e
        · exact .spend e
      refine Settled.of_moved (x := x) (g := g)
        ⟨⟨Table.replaces_update hx ?_ ?_, rfl, rfl⟩, Table.replaces_update hg ?_ ?_, rfl, rfl,
          hheld.grant_request.trans hid.symm, hheld.permit, hq, hnext,
          Permit.fresh_of_taken rfl, rfl,
          List.Sublist.refl _, hv.no_credential hg ?_⟩ hv (hk.trans (by rw [hid])) ?_
      · exact decide_eq_true ⟨hheld.request_organization.trans horg.symm, hid,
          hheld.request_status⟩
      · exact fun y hy => (of_decide_eq_true hy).2.1.trans hid.symm
      · exact decide_eq_true ⟨hheld.grant_organization.trans horg.symm, rfl,
          hheld.execution.trans (hitemExecution.trans hheld.run_execution).symm,
          hheld.grant_status⟩
      · exact fun y hy => (of_decide_eq_true hy).2.1
      · rw [hheld.grant_status]
        decide
      · cases successful
        · exact ⟨e, hheld.run_execution, rfl⟩
        · exact ⟨e, hheld.run_execution, rfl⟩

end Worker

/-! ## Cancellation -/

namespace Control

variable {actor : ActorContext} {organizationId : OrganizationId} {requestId : RequestId}
  {now : Time}

theorem cancelRequest_found {x : ApprovalRequest}
    (hfound : db.requests.one? (fun r => decide (r.organizationId = organizationId ∧
      r.requestId = requestId)) = some x)
    (h : cancelRequest actor organizationId requestId now db = .ok after) :
    (∃ x' audit, after = { db with requests := after.requests, audit := audit } ∧
      Table.Replaces db.requests after.requests x x' ∧ x'.fixed = x.fixed ∧
      x'.version = x.version + 1 ∧ x'.status = .cancelled) ∧
      (x.status = .pending ∨ x.status = .approved ∨ x.status = .claimed) ∨
    after = db ∧ ¬ (x.status = .pending ∨ x.status = .approved ∨ x.status = .claimed) := by
  unfold cancelRequest at h
  rw [hfound] at h
  dsimp only at h
  split at h
  next hopen =>
    obtain ⟨⟨sequence, db₁⟩, haudit, h⟩ := ok_of_bind h
    obtain ⟨audit, rfl⟩ := appendAuditEvent_ok haudit
    cases h
    exact .inl ⟨⟨_, audit, rfl, writeRequest_replaces (Table.one?_mem hfound).1 rfl, rfl, rfl, rfl⟩,
      hopen⟩
  next hclosed =>
    cases h
    exact .inr ⟨rfl, hclosed⟩

theorem cancelGrant_found {g : ApprovalGrant} {grantId : Option GrantId}
    (hfound : db.grants.one? (fun g => decide (g.organizationId = organizationId ∧
      g.requestId = requestId)) = some g)
    (h : cancelGrant actor organizationId requestId now db = .ok (grantId, after)) :
    (∃ g' audit, after = { db with grants := after.grants, audit := audit } ∧
      Table.Replaces db.grants after.grants g g' ∧ g'.fixed = g.fixed ∧
      g'.version = g.version + 1 ∧ g'.executionId = g.executionId ∧
      g'.status = if g.status = .claimed then .failed else .revoked) ∧
      grantId = some g.grantId ∧ (g.status = .issued ∨ g.status = .claimed) ∨
    (after = db ∧ grantId = none) ∧ ¬ (g.status = .issued ∨ g.status = .claimed) := by
  have hg := (Table.one?_mem hfound).1
  unfold cancelGrant at h
  rw [hfound] at h
  dsimp only at h
  split at h
  next hopen =>
    have hreplaces : ∀ status : GrantStatus, Table.Replaces db.grants
        (db.grants.update (fun y => y.grantId = g.grantId) fun y =>
          { y with status := status, version := y.version + 1, updatedAt := now }) g
        { g with status := status, version := g.version + 1, updatedAt := now } :=
      fun status => Table.replaces_update hg (by simp) (by simp)
    simp only [decide_eq_true_eq] at h
    split at h
    next hclaimed =>
      obtain ⟨⟨sequence, db₁⟩, haudit, h⟩ := ok_of_bind h
      obtain ⟨audit, rfl⟩ := appendAuditEvent_ok haudit
      cases h
      exact .inl ⟨⟨_, audit, rfl, hreplaces _, rfl, rfl, rfl, (if_pos hclaimed).symm⟩, rfl, hopen⟩
    next hissued =>
      cases h
      exact .inl ⟨⟨_, db.audit, rfl, hreplaces _, rfl, rfl, rfl, (if_neg hissued).symm⟩, rfl, hopen⟩
  next hclosed =>
    cases h
    exact .inr ⟨⟨rfl, rfl⟩, hclosed⟩

omit [Sha256] in
/-- The grant that a request is looked up with. -/
theorem one?_grant (hv : ∀ g ∈ db.grants.rows, ∀ g' ∈ db.grants.rows,
      g.requestId = g'.requestId → g = g') {g : ApprovalGrant} (hg : g ∈ db.grants.rows)
    (horg : g.organizationId = organizationId) (hid : g.requestId = requestId) :
    db.grants.one? (fun g => decide (g.organizationId = organizationId ∧
      g.requestId = requestId)) = some g := by
  obtain ⟨y, hy⟩ := Option.isSome_iff_exists.mp
    (Table.one?_isSome (p := fun g => decide (g.organizationId = organizationId ∧
      g.requestId = requestId)) hg (decide_eq_true ⟨horg, hid⟩))
  obtain ⟨hmem, hcondition⟩ := Table.one?_mem hy
  rw [hy, hv y hmem g hg ((of_decide_eq_true hcondition).2.trans hid.symm)]

/-- The vault after a cancellation that ended the grant. -/
def discarded (vault : Vault) : Option GrantId → Vault
  | none => vault
  | some grantId => vault.discard grantId

/-- The permit of a run that is not over: nobody has taken it, or the run has. -/
def HeldBy (run : ProductionRun) (p : Permit ExecutionId) : Prop :=
  run.executionId = none ∧ p.execution = none ∨ ∃ e, run.executionId = some e ∧ p = .taken e

section

variable {run : ProductionRun} {k : RequestId} {x : ApprovalRequest} {p : Permit ExecutionId}
  {grantId : Option GrantId} {mid : Db}

/-- Without a grant the request alone is cancelled, if it is still pending. -/
theorem cancelApproval_ungranted (hv : (db.approvals vault).Valid)
    (hk : run.approvalRequestId = some k)
    (hfound : db.requests.one? (fun r => decide (r.organizationId = organizationId ∧
      r.requestId = k)) = some x)
    (hof : (db.approvals vault).grantOf k = none)
    (hpermit : (db.approvals vault).registry k = some p) (hp : permitOf x none = some p)
    (hheld : HeldBy run p) (hrequest : cancelRequest actor organizationId k now db = .ok mid)
    (hgrant : cancelGrant actor organizationId k now mid = .ok (grantId, after))
    (hkept : mid.grants = db.grants ∧ mid.decisions = db.decisions) :
    Settled (db.approvals vault) (after.approvals (discarded vault grantId)) run .cancelled := by
  have hid : x.requestId = k := (of_decide_eq_true (Table.one?_mem hfound).2).2
  -- The grant is looked up by the request, which has none.
  have hno : cancelGrant actor organizationId k now mid = .ok (none, mid) := by
    unfold cancelGrant
    rw [hkept.1, Table.one?_eq_none.mpr]
    intro g hg
    exact decide_eq_false fun hsame => Approvals.grantOf_eq_none.mp hof g hg hsame.2
  rw [hno] at hgrant
  cases hgrant
  rcases permitOf_none hp with ⟨hpending, rfl⟩ | ⟨hclosed, rfl⟩
  · rcases hheld with ⟨hexecution, _⟩ | ⟨_, _, hp'⟩
    case inr => cases hp'
    rcases cancelRequest_found hfound hrequest with
      ⟨⟨x', audit, hdb, hreplaces, hterms, hversion, hcancelled⟩, _⟩ | ⟨_, hnot⟩
    case inr => exact absurd (.inl hpending) hnot
    have hwritten : (db.approvals vault).Rewritten (after.approvals vault) x x' :=
      ⟨hreplaces, hterms, hversion⟩
    have hrefused := permitOf_refused (.inr (.inl hcancelled))
    refine .bound hk (.single (.refuse hwritten hpending hrefused (.inl hkept.2) hkept.1 rfl))
      ?_ (.inl ⟨hexecution, .inl rfl⟩)
    rw [← hid]
    exact (hwritten.registry hv hpending hkept.1 hrefused).2
  · rcases hheld with ⟨hexecution, _⟩ | ⟨_, _, hp'⟩
    case inr => cases hp'
    rcases cancelRequest_found hfound hrequest with ⟨_, hopen⟩ | ⟨rfl, _⟩
    · rcases hopen with hopen | hopen | hopen <;>
        rcases hclosed with hclosed | hclosed | hclosed | hclosed <;>
        rw [hopen] at hclosed <;> cases hclosed
    · refine .bound hk .refl ?_ (.inl ⟨hexecution, .inl rfl⟩)
      rw [← hpermit]
      exact (Function.update_eq_self _ _).symm

variable {g : ApprovalGrant}

/-- An open request and its grant are written together. -/
theorem cancelApproval_moves {q : Permit ExecutionId} (hv : (db.approvals vault).Valid)
    (hk : run.approvalRequestId = some k)
    (hfound : db.requests.one? (fun r => decide (r.organizationId = organizationId ∧
      r.requestId = k)) = some x)
    (hgfound : mid.grants.one? (fun g => decide (g.organizationId = organizationId ∧
      g.requestId = k)) = some g)
    (hp : permitOf x (some g) = some p)
    (hrequest : cancelRequest actor organizationId k now db = .ok mid)
    (hgrant : cancelGrant actor organizationId k now mid = .ok (grantId, after))
    (hkept : mid.grants = db.grants ∧ mid.decisions = db.decisions)
    (hxopen : x.status = .approved ∨ x.status = .claimed)
    (hgopen : g.status = .issued ∨ g.status = .claimed) (hnext : p.Next q)
    (hfresh : ∀ e, p.execution = none → q.execution ≠ some e)
    (hq : ∀ (x' : ApprovalRequest) (g' : ApprovalGrant), x'.status = .cancelled →
      g'.executionId = g.executionId →
      g'.status = (if g.status = .claimed then .failed else .revoked) →
      permitOf x' (some g') = some q)
    (hends : RunStatus.cancelled.agreesPermit run.executionId q) :
    Settled (db.approvals vault) (after.approvals (discarded vault grantId)) run .cancelled := by
  have hid : x.requestId = k := (of_decide_eq_true (Table.one?_mem hfound).2).2
  have hgid : g.requestId = k := (of_decide_eq_true (Table.one?_mem hgfound).2).2
  rcases cancelRequest_found hfound hrequest with
    ⟨⟨x', audit, hdb, hreplaces, hterms, hversion, hcancelled⟩, _⟩ | ⟨_, hnot⟩
  case inr => exact absurd (.inr hxopen) hnot
  rcases cancelGrant_found hgfound hgrant with
    ⟨⟨g', audit', hdb', hreplaces', hterms', hversion', hexecution, hgstatus⟩, rfl, _⟩ |
    ⟨_, hnot⟩
  case inr => exact absurd hgopen hnot
  rw [hkept.1] at hreplaces'
  have hrequests : after.requests = mid.requests := by rw [hdb']
  have hdecisions : after.decisions = db.decisions := by
    rw [hdb']
    exact hkept.2
  refine Settled.of_moved (t := after.approvals (vault.discard g.grantId))
    ⟨⟨?_, hterms, hversion⟩, hreplaces', hterms', hversion', hgid.trans hid.symm, hp,
      hq x' g' hcancelled hexecution hgstatus, hnext,
      fun e hpe hqe => absurd hqe (hfresh e hpe), hdecisions, List.filter_sublist,
      fun e he => of_decide_eq_true (List.mem_filter.mp he).2⟩ hv (hk.trans (by rw [hid])) hends
  rw [show (after.approvals _).requests = mid.requests from hrequests]
  exact hreplaces

/-- A grant that is still in use is revoked or fails with the request. -/
theorem cancelApproval_granted (hv : (db.approvals vault).Valid)
    (hk : run.approvalRequestId = some k)
    (hfound : db.requests.one? (fun r => decide (r.organizationId = organizationId ∧
      r.requestId = k)) = some x)
    (hgfound : mid.grants.one? (fun g => decide (g.organizationId = organizationId ∧
      g.requestId = k)) = some g)
    (hpermit : (db.approvals vault).registry k = some p) (hp : permitOf x (some g) = some p)
    (hheld : HeldBy run p) (hrequest : cancelRequest actor organizationId k now db = .ok mid)
    (hgrant : cancelGrant actor organizationId k now mid = .ok (grantId, after))
    (hkept : mid.grants = db.grants ∧ mid.decisions = db.decisions) :
    Settled (db.approvals vault) (after.approvals (discarded vault grantId)) run .cancelled := by
  rcases permitOf_some hp with ⟨hxs, hgs, hfree, rfl⟩ | ⟨hxs, hgs, hfree, rfl⟩ |
    ⟨e, he, ⟨hxs, hgs, rfl⟩ | ⟨_, _, rfl⟩ | ⟨_, _, rfl⟩⟩
  · rcases hheld with ⟨hexecution, _⟩ | ⟨_, _, hp'⟩
    case inr => cases hp'
    refine cancelApproval_moves hv hk hfound hgfound hp hrequest hgrant hkept (.inl hxs)
      (.inl hgs) .withdraw (Permit.fresh_of_free rfl) ?_ (.inl ⟨hexecution, .inr rfl⟩)
    intro x' g' hx' hg' hstatus'
    rw [hgs, if_neg (by decide)] at hstatus'
    exact permitOf_withdrawn (.inl hx') hstatus' (hg'.trans hfree)
  -- Request and grant were closed before; the run alone is cancelled.
  · rcases hheld with ⟨hexecution, _⟩ | ⟨_, _, hp'⟩
    case inr => cases hp'
    rcases cancelRequest_found hfound hrequest with ⟨_, hopen⟩ | ⟨rfl, _⟩
    · rcases hopen with hopen | hopen | hopen <;> rcases hxs with hxs | hxs <;>
        rw [hopen] at hxs <;> cases hxs
    rcases cancelGrant_found hgfound hgrant with ⟨_, _, hopen⟩ | ⟨⟨rfl, rfl⟩, _⟩
    · rcases hopen with hopen | hopen <;> rw [hgs] at hopen <;> cases hopen
    refine .bound hk .refl ?_ (.inl ⟨hexecution, .inr rfl⟩)
    rw [← hpermit]
    exact (Function.update_eq_self _ _).symm
  · rcases hheld with ⟨_, hp'⟩ | ⟨e', hexecution, hp'⟩
    · cases hp'
    cases hp'
    refine cancelApproval_moves hv hk hfound hgfound hp hrequest hgrant hkept (.inr hxs)
      (.inr hgs) (.fail e) (Permit.fresh_of_taken rfl) ?_ (.inr ⟨e, hexecution, rfl⟩)
    intro x' g' hx' hg' hstatus'
    rw [if_pos hgs] at hstatus'
    exact permitOf_failed (.inr hx') hstatus' (hg'.trans he)
  -- A permit that was spent or has failed is not that of a run that can be cancelled.
  · rcases hheld with ⟨_, hp'⟩ | ⟨_, _, hp'⟩ <;> cases hp'
  · rcases hheld with ⟨_, hp'⟩ | ⟨_, _, hp'⟩ <;> cases hp'

end

theorem cancelApproval_settled {run : ProductionRun} {grantId : Option GrantId}
    (hv : (db.approvals vault).Valid)
    (hbound : ∀ k, run.approvalRequestId = some k → (db.approvals vault).Bound run k)
    (hstatus : run.status = .waitingApproval ∨ run.status.executing)
    (horg : run.organizationId = organizationId)
    (h : cancelApproval actor organizationId run.approvalRequestId now db = .ok (grantId, after)) :
    Settled (db.approvals vault) (after.approvals (discarded vault grantId)) run .cancelled := by
  cases hk : run.approvalRequestId with
  | none =>
      rw [hk] at h
      cases h
      exact .unbound hk .refl rfl
  | some k =>
      rw [hk] at h
      obtain ⟨mid, hrequest, hgrant⟩ := ok_of_bind h
      obtain ⟨p, hpermit, hagrees⟩ := (hbound k hk).permit
      obtain ⟨x, hx, hid, hxorg⟩ := (hbound k hk).request
      -- A run that waits has no execution, and one that is open has taken its permit.
      have hheld : HeldBy run p := by
        rcases hstatus with hwaiting | hopen
        · rw [hwaiting] at hagrees
          exact .inl hagrees
        · exact .inr ((Approvals.agreesPermit_open hopen _ _).mp hagrees)
      have hfound : db.requests.one? (fun r => decide (r.organizationId = organizationId ∧
          r.requestId = k)) = some x :=
        one?_request (show x ∈ db.requests.rows from hx) _ (decide_eq_true ⟨hxorg.trans horg, hid⟩)
          fun y hy => (of_decide_eq_true hy).2.trans hid.symm
      have hkept : mid.grants = db.grants ∧ mid.decisions = db.decisions := by
        rcases cancelRequest_found hfound hrequest with ⟨⟨x', audit, hdb, _⟩, _⟩ | ⟨hdb, _⟩ <;>
          rw [hdb] <;> exact ⟨rfl, rfl⟩
      have hp := hpermit
      rw [← hid, Approvals.registry_of_mem hx, hid] at hp
      cases hof : (db.approvals vault).grantOf k with
      | none =>
          rw [hof] at hp
          exact cancelApproval_ungranted hv hk hfound hof hpermit hp hheld hrequest hgrant hkept
      | some g =>
          rw [hof] at hp
          obtain ⟨hg, hgid⟩ := Approvals.mem_of_grantOf hof
          obtain ⟨y, hy, hfor⟩ := hv.granted g hg
          have hsame : y = x :=
            Table.eq_of_key hy hx (hfor.request.symm.trans (hgid.trans hid.symm))
          rw [hsame] at hfor
          have hgfound : mid.grants.one? (fun g => decide (g.organizationId = organizationId ∧
              g.requestId = k)) = some g := by
            rw [hkept.1]
            exact one?_grant hv.single hg (hfor.organization.trans (hxorg.trans horg)) hgid
          exact cancelApproval_granted hv hk hfound hgfound hpermit hp hheld hrequest hgrant hkept

end Control

end FlowPilot
