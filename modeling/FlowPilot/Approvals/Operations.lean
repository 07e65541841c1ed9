import FlowPilot.Approvals.Transitions
import FlowPilot.Authority.Recheck

/-!
# The approval operations of the Control API

What each operation of `approval.py` commits, as transitions of the approval tables.  The queue,
the runs and the traces stay as they are.
-/

open FlowPilot.Lib Relation

namespace FlowPilot.Control

/-- The approval tables of the plane. -/
def Plane.approvals (plane : Plane) : Approvals := plane.db.approvals plane.vault

variable {db after : Db}

/-! ## Inserts and writes -/

theorem insertDecision_ok {decision : ApprovalDecision}
    (h : db.insertDecision decision = .ok after) :
    (∃ hfresh, after = { db with decisions := db.decisions.insert decision hfresh }) ∧
    ∀ d ∈ db.decisions.rows, d.organizationId = decision.organizationId →
      d.requestId = decision.requestId →
      d.approverUserId ≠ decision.approverUserId ∧ d.approvalRole ≠ decision.approvalRole := by
  unfold Db.insertDecision at h
  split at h
  · cases h
  next hunique =>
    split at h
    · cases h
    next rows hrows =>
      obtain ⟨hfresh, rfl⟩ := Table.insert?_eq_some hrows
      cases h
      refine ⟨⟨hfresh, rfl⟩, fun d hd horg hrequest => ?_⟩
      have hmiss : ¬ (d.approverUserId = decision.approverUserId ∨
          d.approvalRole = decision.approvalRole) := by
        intro hshared
        exact hunique (Table.one?_isSome hd (decide_eq_true ⟨horg, hrequest, hshared⟩))
      exact ⟨fun hsame => hmiss (.inl hsame), fun hsame => hmiss (.inr hsame)⟩

theorem insertGrant_ok {grant : ApprovalGrant} (h : db.insertGrant grant = .ok after) :
    ∃ hfresh, after = { db with grants := db.grants.insert grant hfresh } := by
  unfold Db.insertGrant at h
  split at h
  · cases h
  · split at h
    · cases h
    next rows hrows =>
      obtain ⟨hfresh, rfl⟩ := Table.insert?_eq_some hrows
      cases h
      exact ⟨hfresh, rfl⟩

/-- The row that `writeRequest` writes for `request`. -/
def written (row request : ApprovalRequest) : ApprovalRequest :=
  { row with
    status := request.status
    version := request.version
    closedReason := request.closedReason
    auditSequence := request.auditSequence
    updatedAt := request.updatedAt }

theorem writeRequest_replaces {request row : ApprovalRequest} (hrow : row ∈ db.requests.rows)
    (hid : row.requestId = request.requestId) :
    Table.Replaces db.requests (writeRequest db request).requests row (written row request) :=
  Table.replaces_update hrow (by simp [hid]) (by simp +contextual [hid])

theorem discardAll_entries (vault : Vault) (grants : List ApprovalGrant)
    (e : GrantId × Credential) :
    e ∈ (grants.foldl (fun vault grant => vault.discard grant.grantId) vault).entries ↔
      e ∈ vault.entries ∧ ∀ g ∈ grants, e.1 ≠ g.grantId := by
  induction grants generalizing vault with
  | nil => simp
  | cons grant rest ih =>
      rw [List.foldl_cons, ih, List.forall_mem_cons]
      unfold Vault.discard
      simp only [List.mem_filter, decide_eq_true_eq, and_assoc]

theorem discardAll_sublist (vault : Vault) (grants : List ApprovalGrant) :
    (grants.foldl (fun vault grant => vault.discard grant.grantId) vault).entries.Sublist
      vault.entries := by
  induction grants generalizing vault with
  | nil => exact List.Sublist.refl _
  | cons grant rest ih => exact (ih (vault.discard grant.grantId)).trans List.filter_sublist

/-! ## Grants that are taken -/

/-- The grants that an execution has taken are the same. -/
def SameTaken (s t : Approvals) : Prop :=
  ∀ g : ApprovalGrant, g.executionId.isSome → (g ∈ t.grants.rows ↔ g ∈ s.grants.rows)

theorem sameTaken_of_grants {s t : Approvals} (h : t.grants = s.grants) : SameTaken s t := by
  intro g _
  rw [h]

theorem SameTaken.trans {s t u : Approvals} (h : SameTaken s t) (h' : SameTaken t u) :
    SameTaken s u := fun g hg => (h' g hg).trans (h g hg)

theorem sameTaken_of_insert {s t : Approvals} {g : ApprovalGrant}
    (h : ∃ hfresh, t.grants = s.grants.insert g hfresh) (hfree : g.executionId = none) :
    SameTaken s t := by
  obtain ⟨hfresh, h⟩ := h
  intro x hx
  rw [h, Table.mem_insert hfresh]
  refine or_iff_left ?_
  intro hsame
  rw [hsame, hfree] at hx
  cases hx

theorem sameTaken_of_replaces {s t : Approvals} {g g' : ApprovalGrant}
    (h : Table.Replaces s.grants t.grants g g') (hfree : g.executionId = none)
    (hfree' : g'.executionId = none) : SameTaken s t := by
  intro x hx
  constructor
  · intro hmem
    rcases h.mem_iff.mp hmem with rfl | ⟨hold, _⟩
    · rw [hfree'] at hx
      cases hx
    · exact hold
  · intro hmem
    refine h.mem_iff.mpr (.inr ⟨hmem, ?_⟩)
    intro hkey
    rw [Table.eq_of_key hmem h.mem hkey, hfree] at hx
    cases hx

/-! ## What an operation commits -/

variable [Sha256] {plane next : Plane}

/-- The approval tables have gone through transitions, and nothing of a run was written. -/
structure Operated (plane next : Plane) : Prop extends Db.SameQueue plane.db next.db where
  idempotency : next.db.idempotency = plane.db.idempotency
  traces : next.db.traces = plane.db.traces
  transitions : ReflTransGen Approvals.Next plane.approvals next.approvals

/-- An operation that no execution takes part in. -/
structure Administered (plane next : Plane) : Prop extends Operated plane next where
  taken : SameTaken plane.approvals next.approvals

theorem administered_of_next (hqueue : Db.SameQueue plane.db next.db)
    (hidempotency : next.db.idempotency = plane.db.idempotency)
    (htraces : next.db.traces = plane.db.traces)
    (h : plane.approvals.Next next.approvals ∧ SameTaken plane.approvals next.approvals) :
    Administered plane next :=
  ⟨⟨hqueue, hidempotency, htraces, .single h.1⟩, h.2⟩

theorem Operated.approvalsOnly (h : Operated plane next) : ApprovalsOnly plane.db next.db where
  toSameQueue := h.toSameQueue
  idempotency := h.idempotency
  traces := h.traces
  requests := by
    intro k hk
    obtain ⟨r, hr⟩ := Option.isSome_iff_exists.mp hk
    obtain ⟨r', hr', hkey, _⟩ := Approvals.requests_of_run h.transitions r (Table.mem_of_get? hr)
    have hfound := Table.get?_of_mem hr'
    rw [hkey, Table.key_of_get? hr] at hfound
    exact Option.isSome_iff_exists.mpr ⟨r', hfound⟩

/-- Only the audit log has been written, and credentials were dropped. -/
theorem administered_of_audit {audit : AuditLog} {vault : Vault}
    (h : vault = plane.vault ∨ ∃ grantId, vault = plane.vault.discard grantId) :
    Administered plane ⟨{ plane.db with audit := audit }, vault⟩ where
  runs := rfl
  outbox := rfl
  leases := rfl
  partitions := rfl
  idempotency := rfl
  traces := rfl
  transitions := by
    rcases h with rfl | ⟨grantId, rfl⟩
    · exact .refl
    · exact .single (.forget List.filter_sublist rfl)
  taken := sameTaken_of_grants rfl

theorem createAuthority_administered {actor : ActorContext} {organizationId : OrganizationId}
    {userId : UserId} {role : ApprovalRole} {now : Time} {reply : Except Failure ApprovalAuthority}
    (h : createAuthority actor organizationId userId role now plane = .ok (reply, next)) :
    Administered plane next := by
  unfold createAuthority at h
  dsimp only at h
  split at h
  · cases h
  split at h
  · cases h
  split at h
  · cases h
  next db hinsert =>
    cases h
    unfold Db.insertAuthority at hinsert
    split at hinsert
    · cases hinsert
    split at hinsert
    · cases hinsert
    cases hinsert
    exact ⟨⟨⟨rfl, rfl, rfl, rfl⟩, rfl, rfl, .refl⟩, sameTaken_of_grants rfl⟩

theorem createExecutionGate_administered {actor : ActorContext} {organizationId : OrganizationId}
    {payload : GateRequest} {now : Time} {reply : Except Failure GateResponse}
    (h : createExecutionGate actor organizationId payload now plane = .ok (reply, next)) :
    Administered plane next := by
  unfold createExecutionGate at h
  split at h
  · cases h
  obtain ⟨evaluation, _, h⟩ := ok_of_bind h
  dsimp only at h
  obtain ⟨⟨_, db₁⟩, hclassified, h⟩ := ok_of_bind h
  obtain ⟨audit, rfl⟩ := appendAuditEvent_ok hclassified
  dsimp only at h
  split at h
  · obtain ⟨⟨_, db₂⟩, hdenied, h⟩ := ok_of_bind h
    obtain ⟨audit', rfl⟩ := appendAuditEvent_ok hdenied
    cases h
    exact administered_of_audit (.inl rfl)
  split at h
  · obtain ⟨⟨_, db₂⟩, hstarted, h⟩ := ok_of_bind h
    obtain ⟨audit', rfl⟩ := appendAuditEvent_ok hstarted
    obtain ⟨⟨_, db₃⟩, hdone, h⟩ := ok_of_bind h
    obtain ⟨audit'', rfl⟩ := appendAuditEvent_ok hdone
    cases h
    exact administered_of_audit (.inl rfl)
  · obtain ⟨⟨sequence, db₂⟩, hrequested, h⟩ := ok_of_bind h
    obtain ⟨audit', rfl⟩ := appendAuditEvent_ok hrequested
    obtain ⟨db₃, hinsert, h⟩ := ok_of_bind h
    obtain ⟨hfresh, rfl⟩ := Db.insertRequest_ok hinsert
    cases h
    exact administered_of_next ⟨rfl, rfl, rfl, rfl⟩ rfl rfl
      ⟨.ask rfl ⟨hfresh, rfl⟩ rfl rfl rfl, sameTaken_of_grants rfl⟩

theorem resumeExecutionClaim_administered {actor : ActorContext} {organizationId : OrganizationId}
    {executionId : ExecutionId} {parameterHash authorizationHash : Digest} {now : Time}
    {reply : Except Failure ExecutionClaim}
    (h : resumeExecutionClaim actor organizationId executionId parameterHash authorizationHash now
      plane = .ok (reply, next)) : Administered plane next := by
  unfold resumeExecutionClaim at h
  dsimp only at h
  split at h
  · cases h
  split at h
  · cases h
  split at h
  · cases h
  split at h
  · cases h
  split at h
  · cases h
  obtain ⟨_, _, h⟩ := ok_of_bind h
  obtain ⟨⟨_, db₁⟩, haudit, h⟩ := ok_of_bind h
  obtain ⟨audit, rfl⟩ := appendAuditEvent_ok haudit
  cases h
  exact administered_of_audit (.inl rfl)

/-! ## Revocation -/

/-- An issued grant is found with its approved request. -/
theorem issued_request {vault : Vault} (hv : (db.approvals vault).Valid) {grant : ApprovalGrant}
    (hg : grant ∈ db.grants.rows) (hissued : grant.status = .issued) :
    ∃ r ∈ db.requests.rows, GrantedFor r grant ∧ r.status = .approved ∧
      grant.executionId = none ∧ permitOf r (some grant) = some .granted := by
  obtain ⟨r, hr, hfor, p, hp⟩ := hv.request_of_grant hg
  obtain ⟨happroved, hfree, rfl⟩ := permitOf_issued hp hissued
  exact ⟨r, hr, hfor, happroved, hfree, hp⟩

omit [Sha256] in
/-- A request that is found by its organization and id. -/
theorem one?_request {r : ApprovalRequest} (hr : r ∈ db.requests.rows) (p : ApprovalRequest → Bool)
    (hp : p r = true) (hid : ∀ x, p x = true → x.requestId = r.requestId) :
    db.requests.one? p = some r := by
  rw [Table.one?_of_key hid, ← key_request, Table.get?_of_mem hr, Option.filter_some, if_pos hp]

theorem revokeAffected_next {actor : ActorContext} {organizationId : OrganizationId} {now : Time}
    {grant : ApprovalGrant} {vault : Vault} (hv : (db.approvals vault).Valid)
    (hg : grant ∈ db.grants.rows) (hissued : grant.status = .issued)
    (horg : grant.organizationId = organizationId)
    (h : revokeAffected actor organizationId now db grant = .ok after) :
    (db.approvals vault).Next (after.approvals (vault.discard grant.grantId)) ∧
      SameTaken (db.approvals vault) (after.approvals (vault.discard grant.grantId)) ∧
      ∀ g ∈ db.grants.rows, g.grantId ≠ grant.grantId → g ∈ after.grants.rows := by
  obtain ⟨r, hr, hfor, happroved, hfree, hp⟩ := issued_request hv hg hissued
  let revoked : ApprovalGrant :=
    { grant with status := .revoked, version := grant.version + 1, updatedAt := now }
  have hgrants : Table.Replaces db.grants
      (db.grants.update (fun g => g.grantId = grant.grantId) fun g =>
        { g with status := .revoked, version := grant.version + 1, updatedAt := now })
      grant revoked :=
    Table.replaces_update hg (by simp) (by simp)
  have hfound := one?_request hr
    (fun r => decide (r.organizationId = organizationId ∧ r.requestId = grant.requestId))
    (decide_eq_true ⟨hfor.organization.symm.trans horg, hfor.request.symm⟩)
    (fun x hx => (of_decide_eq_true hx).2.trans hfor.request)
  unfold revokeAffected at h
  dsimp only at h
  rw [hfound] at h
  dsimp only at h
  rw [if_pos happroved] at h
  obtain ⟨⟨sequence, db₁⟩, haudit, h⟩ := ok_of_bind h
  obtain ⟨audit, rfl⟩ := appendAuditEvent_ok haudit
  cases h
  refine ⟨?_, sameTaken_of_replaces hgrants hfree hfree,
    fun g hmem hne => hgrants.mem_iff.mpr (.inr ⟨hmem, hne⟩)⟩
  have hwritten : Table.Replaces db.requests
      (db.requests.update (fun r' => r'.requestId = r.requestId) fun r' =>
        { r' with
          status := .invalidated
          closedReason := some .authorityInactive
          version := r.version + 1
          updatedAt := now
          auditSequence := sequence }) r
      { r with
        status := .invalidated
        closedReason := some .authorityInactive
        version := r.version + 1
        updatedAt := now
        auditSequence := sequence } :=
    Table.replaces_update hr (by simp) (by simp)
  refine .move ⟨⟨hwritten, rfl, rfl⟩, hgrants, rfl, rfl, hfor.request, hp,
    permitOf_withdrawn (.inr rfl) rfl hfree, .withdraw, Permit.fresh_of_free rfl, rfl,
    List.filter_sublist, ?_⟩
  intro e he
  exact of_decide_eq_true (List.mem_filter.mp he).2

theorem revokeAll_transitions {actor : ActorContext} {organizationId : OrganizationId} {now : Time}
    {affected : List ApprovalGrant} (h : revokeAll actor organizationId now db affected = .ok after)
    {vault : Vault} (hv : (db.approvals vault).Valid) (hnodup : affected.Nodup)
    (haffected : ∀ g ∈ affected, g ∈ db.grants.rows ∧ g.status = .issued ∧
      g.organizationId = organizationId) :
    ReflTransGen Approvals.Next (db.approvals vault)
      (after.approvals (affected.foldl (fun vault grant => vault.discard grant.grantId) vault)) ∧
    SameTaken (db.approvals vault)
      (after.approvals (affected.foldl (fun vault grant => vault.discard grant.grantId) vault)) := by
  induction affected generalizing db vault with
  | nil =>
      cases h
      exact ⟨.refl, sameTaken_of_grants rfl⟩
  | cons grant rest ih =>
      obtain ⟨mid, hfirst, hrest⟩ := ok_of_bind h
      rw [List.forall_mem_cons] at haffected
      obtain ⟨⟨hg, hissued, horg⟩, hothers⟩ := haffected
      obtain ⟨hnotin, hnodup⟩ := List.nodup_cons.mp hnodup
      obtain ⟨hnext, htaken, hkept⟩ := revokeAffected_next hv hg hissued horg hfirst
      have hstill : ∀ g ∈ rest, g ∈ mid.grants.rows ∧ g.status = .issued ∧
          g.organizationId = organizationId := by
        intro g hmem
        obtain ⟨hrow, hrow'⟩ := hothers g hmem
        refine ⟨hkept g hrow fun hid => hnotin ?_, hrow'⟩
        rw [← Table.eq_of_key hrow hg hid]
        exact hmem
      obtain ⟨hrun, htaken'⟩ := ih hrest (hnext.valid hv) hnodup hstill
      exact ⟨.head hnext hrun, htaken.trans htaken'⟩

theorem disableAuthority_administered {actor : ActorContext} {organizationId : OrganizationId}
    {authorityId : AuthorityId} {expectedVersion : Nat} {now : Time}
    {affected : List ApprovalGrant} {reply : Except Failure ApprovalAuthority}
    (hv : plane.approvals.Valid)
    (haffected : affected.Subperm (affectedGrants plane.db organizationId authorityId))
    (h : disableAuthority actor organizationId authorityId expectedVersion now affected plane =
      .ok (reply, next)) : Administered plane next := by
  have hmem : ∀ g ∈ affected, g ∈ plane.db.grants.rows ∧ g.status = .issued ∧
      g.organizationId = organizationId := by
    intro g hg
    obtain ⟨hrow, hscan⟩ := Table.mem_select.mp (haffected.subset hg)
    obtain ⟨horg, hissued, _⟩ := of_decide_eq_true hscan
    exact ⟨hrow, hissued, horg⟩
  have hnodup : affected.Nodup := by
    obtain ⟨l, hperm, hsub⟩ := haffected
    have hrows : plane.db.grants.rows.Nodup := List.Nodup.of_map _ plane.db.grants.nodup
    exact hperm.nodup_iff.mp ((hrows.filter _).sublist hsub)
  unfold disableAuthority at h
  dsimp only at h
  split at h
  · cases h
  split at h
  · cases h
  split at h
  · cases h
  obtain ⟨mid, hrevoked, h⟩ := ok_of_bind h
  obtain ⟨⟨sequence, db₁⟩, haudit, h⟩ := ok_of_bind h
  obtain ⟨audit, rfl⟩ := appendAuditEvent_ok haudit
  have honly := (revokeAll_ok hrevoked).1
  obtain ⟨htransitions, htaken⟩ := revokeAll_transitions hrevoked hv hnodup hmem
  cases h
  exact ⟨⟨⟨honly.runs, honly.outbox, honly.leases, honly.partitions⟩, honly.idempotency,
    honly.traces, htransitions⟩, htaken⟩

omit [Sha256] in
theorem key_revoked (now : Time) (g : ApprovalGrant) :
    Keyed.key { g with status := .revoked, version := g.version + 1, updatedAt := now } =
      Keyed.key g := rfl

/-- The grants after the revocation of those that were read as issued. -/
def revoked (grants : Table ApprovalGrant) (issued : List ApprovalGrant) (now : Time) :
    Table ApprovalGrant :=
  grants.update (fun g => issued.any fun grant => grant.grantId = g.grantId)
    (fun g => { g with status := .revoked, version := g.version + 1, updatedAt := now })
    (key_revoked now)

omit [Sha256] in
theorem revoked_nil (grants : Table ApprovalGrant) (now : Time) : revoked grants [] now = grants :=
  Table.update_none (key_revoked now) fun _ _ => rfl

omit [Sha256] in
theorem revoked_replaces {grants : Table ApprovalGrant} {issued : List ApprovalGrant} (now : Time)
    {grant : ApprovalGrant} (hg : grant ∈ grants.rows) (hin : grant ∈ issued)
    (honly : ∀ x ∈ issued, x = grant) :
    Table.Replaces grants (revoked grants issued now) grant
      { grant with status := .revoked, version := grant.version + 1, updatedAt := now } := by
  refine Table.replaces_update hg ?_ ?_
  · rw [List.any_eq_true]
    exact ⟨grant, hin, decide_eq_true rfl⟩
  · intro x hx
    obtain ⟨y, hy, hyx⟩ := List.any_eq_true.mp hx
    rw [honly y hy] at hyx
    exact (of_decide_eq_true hyx).symm

section

variable {s t : Approvals} {row row' : ApprovalRequest} {issued : List ApprovalGrant} {now : Time}

/-- A pending request has no grant, so nothing is revoked with it. -/
theorem closed_pending (hv : s.Valid) (hr : s.Rewritten t row row')
    (hpending : row.status = .pending)
    (hclosed : row'.status = .cancelled ∨ row'.status = .invalidated)
    (hissued : ∀ g ∈ issued, g ∈ s.grants.rows ∧ g.requestId = row.requestId)
    (hdecisions : t.decisions = s.decisions) (hgrants : t.grants = revoked s.grants issued now)
    (hvault : t.vault = issued.foldl (fun vault grant => vault.discard grant.grantId) s.vault) :
    s.Next t ∧ SameTaken s t := by
  have hempty : issued = [] := by
    rw [List.eq_nil_iff_forall_not_mem]
    intro g hg
    obtain ⟨hmem, hrequest⟩ := hissued g hg
    exact hv.pending_ungranted hr.requests.mem hpending g hmem hrequest
  rw [hempty] at hgrants hvault
  rw [revoked_nil] at hgrants
  refine ⟨.refuse hr hpending (permitOf_refused ?_) (.inl hdecisions) hgrants hvault,
    sameTaken_of_grants hgrants⟩
  rcases hclosed with hclosed | hclosed
  · exact .inr (.inl hclosed)
  · exact .inr (.inr (.inr hclosed))

/-- An approved request is closed together with its grant, which is issued. -/
theorem closed_approved (hv : s.Valid) (hr : s.Rewritten t row row')
    (happroved : row.status = .approved)
    (hclosed : row'.status = .cancelled ∨ row'.status = .invalidated)
    (hissued : ∀ g, g ∈ issued ↔ g ∈ s.grants.rows ∧ g.organizationId = row.organizationId ∧
      g.requestId = row.requestId ∧ g.status = .issued)
    (hdecisions : t.decisions = s.decisions) (hgrants : t.grants = revoked s.grants issued now)
    (hvault : t.vault = issued.foldl (fun vault grant => vault.discard grant.grantId) s.vault) :
    s.Next t ∧ SameTaken s t := by
  obtain ⟨p, hp⟩ := hv.permits row hr.requests.mem
  cases hof : s.grantOf row.requestId with
  | none =>
      rw [hof] at hp
      rcases permitOf_none hp with ⟨hr', _⟩ | ⟨hr' | hr' | hr' | hr', _⟩ <;>
        rw [happroved] at hr' <;> cases hr'
  | some grant =>
      obtain ⟨hg, hrequest⟩ := Approvals.mem_of_grantOf hof
      rw [hof] at hp
      have hgranted : grant.status = .issued ∧ grant.executionId = none ∧ p = .granted := by
        rcases permitOf_some hp with ⟨_, hrest⟩ | ⟨hr' | hr', _⟩ |
          ⟨e, _, ⟨hr', _⟩ | ⟨hr', _⟩ | ⟨hr' | hr', _⟩⟩
        · exact hrest
        all_goals
          rw [happroved] at hr'
          cases hr'
      obtain ⟨hstatus, hfree, rfl⟩ := hgranted
      obtain ⟨r, hmem, hfor, _⟩ := hv.request_of_grant hg
      have hsame : r = row :=
        Table.eq_of_key hmem hr.requests.mem (hfor.request.symm.trans hrequest)
      rw [hsame] at hfor
      have hin : grant ∈ issued := (hissued grant).mpr ⟨hg, hfor.organization, hrequest, hstatus⟩
      -- A request has one grant, so the update writes just this row.
      have honly : ∀ x ∈ issued, x = grant := by
        intro x hx
        obtain ⟨hxmem, _, hxid, _⟩ := (hissued x).mp hx
        exact hv.single x hxmem grant hg (hxid.trans hrequest.symm)
      have hreplaces := revoked_replaces now hg hin honly
      rw [← hgrants] at hreplaces
      refine ⟨.move ⟨hr, hreplaces, rfl, rfl, hrequest, hp, permitOf_withdrawn hclosed rfl hfree,
        .withdraw, Permit.fresh_of_free rfl, hdecisions, ?_, ?_⟩,
        sameTaken_of_replaces hreplaces hfree hfree⟩
      · rw [hvault]
        exact discardAll_sublist _ _
      · intro e he
        rw [hvault] at he
        exact ((discardAll_entries _ _ e).mp he).2 grant hin

end

/-- A closed request that had no grant is refused, and one with a grant loses it. -/
theorem closeRequest_administered {actor : ActorContext} {organizationId : OrganizationId}
    {requestId : RequestId} {expectedVersion : Nat} {reason : ApprovalReason} {invalidate : Bool}
    {now : Time} {reply : Except Failure ApprovalRequest} (hv : plane.approvals.Valid)
    (h : closeRequest actor organizationId requestId expectedVersion reason invalidate now
      (issuedGrants plane.db organizationId requestId) plane = .ok (reply, next)) :
    Administered plane next := by
  have hissued : ∀ g, g ∈ issuedGrants plane.db organizationId requestId ↔
      g ∈ plane.db.grants.rows ∧ g.organizationId = organizationId ∧ g.requestId = requestId ∧
        g.status = .issued := by
    intro g
    unfold issuedGrants
    rw [Table.mem_select, decide_eq_true_eq]
  generalize issuedGrants plane.db organizationId requestId = issued at h hissued
  unfold closeRequest at h
  dsimp only at h
  split at h
  · cases h
  split at h
  · cases h
  split at h
  · cases h
  split at h
  · cases h
  next row hrow =>
    obtain ⟨hr, hcondition⟩ := Table.one?_mem hrow
    obtain ⟨horg, hid, _, hopen⟩ := of_decide_eq_true hcondition
    obtain ⟨⟨sequence, db₁⟩, haudit, h⟩ := ok_of_bind h
    obtain ⟨audit, rfl⟩ := appendAuditEvent_ok haudit
    cases h
    refine administered_of_next ⟨rfl, rfl, rfl, rfl⟩ rfl rfl ?_
    have hclosed : ∀ target : RequestStatus, target =
        (if invalidate = true then .invalidated else .cancelled) →
        target = .cancelled ∨ target = .invalidated := by
      intro target htarget
      rw [htarget]
      split
      · exact .inr rfl
      · exact .inl rfl
    rw [← horg, ← hid] at hissued
    rcases hopen with hpending | happroved
    · refine closed_pending hv ⟨writeRequest_replaces hr rfl, rfl, rfl⟩ hpending (hclosed _ rfl)
        ?_ rfl rfl rfl
      intro g hg
      obtain ⟨hmem, _, hrequest, _⟩ := (hissued g).mp hg
      exact ⟨hmem, hrequest⟩
    · exact closed_approved hv ⟨writeRequest_replaces hr rfl, rfl, rfl⟩ happroved (hclosed _ rfl)
        hissued rfl rfl rfl

/-! ## Decisions -/

/-- What `recordDecision` is called with, for a request that is pending. -/
structure Deciding (actor : ActorContext) (row request : ApprovalRequest)
    (authority : ApprovalAuthority) (prior : List ApprovalDecision) (now : Time) (db : Db) :
    Prop where
  mem : row ∈ db.requests.rows
  pending : row.status = .pending
  request : request = { row with version := row.version + 1, updatedAt := now }
  requester : actor.userId ≠ row.requesterUserId
  executor : actor.userId ≠ row.executorUserId
  role : authority.role ∈ row.requiredRoles
  prior : ∀ d, d ∈ prior ↔ d ∈ db.decisions.rows ∧ d.organizationId = row.organizationId ∧
    d.requestId = row.requestId

omit [Sha256] in
theorem role_of_currentActorAuthorities {seen : Db} {actor : ActorContext}
    {required : List ApprovalRole} {authority : ApprovalAuthority}
    (h : currentActorAuthorities seen actor required = [authority]) :
    authority.role ∈ required := by
  have hmem : authority ∈ currentActorAuthorities seen actor required := by
    rw [h]
    exact List.mem_singleton_self authority
  unfold currentActorAuthorities at hmem
  split at hmem
  · cases hmem
  · obtain ⟨_, hselected⟩ := Table.mem_select.mp ((List.mem_insertionSort _).mp hmem)
    rw [Bool.and_eq_true, decide_eq_true_eq] at hselected
    exact hselected.1.2.2.2

omit [Sha256] in
theorem put_entries {vault after : Vault} {grantId : GrantId} {credential : Credential}
    (h : vault.put grantId credential = .ok after) :
    after.entries = vault.entries ++ [(grantId, credential)] ∧
      (∀ e ∈ vault.entries, e.1 ≠ grantId) ∧ vault.entries.length < Vault.capacity := by
  unfold Vault.put at h
  split at h
  · cases h
  next hfree =>
    cases h
    refine ⟨rfl, ?_, ?_⟩
    · intro e he hid
      refine hfree (.inl ?_)
      unfold Vault.peek
      rw [Option.isSome_map, List.find?_isSome]
      exact ⟨e, he, decide_eq_true hid⟩
    · by_contra hfull
      exact hfree (.inr (Nat.le_of_not_lt hfull))

omit [Sha256] in
theorem sameRoles_iff {a b : List ApprovalRole} (h : sameRoles a b) (role : ApprovalRole) :
    role ∈ a ↔ role ∈ b := by
  cases role with
  | manager => exact h.1
  | security => exact h.2

omit [Sha256] in
/-- The roles that have approved are those of the earlier approvals and this one. -/
theorem approvedBy_recorded {decisions : Table ApprovalDecision} {prior : List ApprovalDecision}
    {row : ApprovalRequest} {decision : ApprovalDecision}
    (hfresh : decisions.get? (Keyed.key decision) = none)
    (horg : ∀ d ∈ decisions.rows, d.requestId = row.requestId →
      d.organizationId = row.organizationId)
    (hprior : ∀ d, d ∈ prior ↔ d ∈ decisions.rows ∧ d.organizationId = row.organizationId ∧
      d.requestId = row.requestId)
    (hdecision : decision.requestId = row.requestId ∧ decision.decision = .approved)
    (role : ApprovalRole) :
    role ∈ (prior.filter fun d => d.decision = .approved).map (·.approvalRole) ++
        [decision.approvalRole] ↔
      ∃ d ∈ (decisions.insert decision hfresh).rows, d.requestId = row.requestId ∧
        d.decision = .approved ∧ d.approvalRole = role := by
  rw [List.mem_append, List.mem_singleton, List.mem_map]
  constructor
  · rintro (⟨d, hd, hdrole⟩ | rfl)
    · obtain ⟨hd, hdapproved⟩ := List.mem_filter.mp hd
      obtain ⟨hmem, _, hrequest⟩ := (hprior d).mp hd
      exact ⟨d, (Table.mem_insert hfresh).mpr (.inl hmem), hrequest,
        of_decide_eq_true hdapproved, hdrole⟩
    · exact ⟨decision, (Table.mem_insert hfresh).mpr (.inr rfl), hdecision.1, hdecision.2, rfl⟩
  · rintro ⟨d, hd, hrequest, hdapproved, hdrole⟩
    rcases (Table.mem_insert hfresh).mp hd with hold | rfl
    · have hmem := (hprior d).mpr ⟨hold, horg d hold hrequest, hrequest⟩
      exact .inl ⟨d, List.mem_filter.mpr ⟨hmem, decide_eq_true hdapproved⟩, hdrole⟩
    · exact .inr hdrole.symm

/-- The last part of a decision: the tables with the decision and, in the end, with the grant. -/
theorem recordDecision_administered {actor : ActorContext} {row request : ApprovalRequest}
    {expectedVersion : Nat} {payload : DecisionCreate} {authority : ApprovalAuthority}
    {prior : List ApprovalDecision} {credential : Credential} {now : Time} {versions : Db}
    {reply : Except Failure DecisionResult} (hv : plane.approvals.Valid)
    (hdeciding : Deciding actor row request authority prior now plane.db)
    (h : recordDecision actor request expectedVersion payload authority prior credential now
      versions plane = .ok (reply, next)) : Administered plane next := by
  obtain ⟨hr, hpending, rfl, hrequester, hexecutor, hrole, hprior⟩ := hdeciding
  unfold recordDecision at h
  obtain ⟨⟨sequence, db₁⟩, haudit, h⟩ := ok_of_bind h
  obtain ⟨audit, rfl⟩ := appendAuditEvent_ok haudit
  dsimp only at h
  obtain ⟨db₂, hinsert, h⟩ := ok_of_bind h
  obtain ⟨⟨hfresh, rfl⟩, hunique⟩ := insertDecision_ok hinsert
  dsimp only at h hunique
  -- Nobody has decided about another organization's request.
  have hdistinct : ∀ d' ∈ plane.db.decisions.rows, d'.requestId = row.requestId →
      d'.approverUserId ≠ actor.userId ∧ d'.approvalRole ≠ authority.role := by
    intro d' hd' hrequest
    obtain ⟨x, hx, hfor⟩ := hv.decided d' hd'
    have hsame : x = row := Table.eq_of_key hx hr (hfor.request.symm.trans hrequest)
    rw [hsame] at hfor
    exact hunique d' hd' hfor.organization hrequest
  have hwritten : ∀ (db : Db) (request : ApprovalRequest), db.requests = plane.db.requests →
      request.requestId = row.requestId →
      Table.Replaces plane.db.requests (writeRequest db request).requests row
        (written row request) := by
    intro db request hsame hid
    rw [← hsame] at hr ⊢
    exact writeRequest_replaces hr hid.symm
  split at h
  · cases h
    refine administered_of_next ⟨rfl, rfl, rfl, rfl⟩ rfl rfl
      ⟨.refuse ⟨hwritten _ _ rfl rfl, rfl, rfl⟩ hpending (permitOf_refused (.inl rfl))
        (.inr ⟨_, ⟨hfresh, rfl⟩, ?_, hdistinct⟩) rfl rfl, sameTaken_of_grants rfl⟩
    exact ⟨rfl, rfl, hrequester, hexecutor, hrole, rfl, rfl⟩
  next hvalue =>
    have happroval : payload.decision = .approved := by
      cases hcase : payload.decision with
      | approved => rfl
      | rejected => exact absurd hcase hvalue
    split at h
    next hroles =>
      obtain ⟨⟨issued, grantId, db₃⟩, hissue, h⟩ := ok_of_bind h
      unfold issueGrant at hissue
      obtain ⟨setHash, _, hissue⟩ := ok_of_bind hissue
      obtain ⟨db₄, hgrant, hissue⟩ := ok_of_bind hissue
      obtain ⟨hfreshGrant, rfl⟩ := insertGrant_ok hgrant
      obtain ⟨⟨sequence', db₅⟩, haudit', hissue⟩ := ok_of_bind hissue
      obtain ⟨audit', rfl⟩ := appendAuditEvent_ok haudit'
      cases hissue
      obtain ⟨vault, hput, h⟩ := ok_of_bind h
      obtain ⟨hentries, hnew, hroom⟩ := put_entries hput
      cases h
      refine administered_of_next ⟨rfl, rfl, rfl, rfl⟩ rfl rfl
        ⟨.grant ⟨hwritten _ _ rfl rfl, rfl, rfl⟩ hpending rfl
          ⟨⟨hfresh, rfl⟩, ⟨rfl, rfl, hrequester, hexecutor, hrole, rfl, rfl⟩, hdistinct⟩
          ⟨hfreshGrant, rfl⟩ ⟨rfl, rfl, rfl, rfl, rfl, rfl, rfl, rfl, Nat.min_le_left _ _⟩ rfl rfl
          ?_ ⟨hentries, hnew, hroom, rfl, rfl⟩, sameTaken_of_insert ⟨hfreshGrant, rfl⟩ rfl⟩
      intro role
      rw [← sameRoles_iff hroles role]
      refine approvedBy_recorded hfresh ?_ hprior ⟨rfl, happroval⟩ role
      intro d hd hrequest
      obtain ⟨x, hx, hfor⟩ := hv.decided d hd
      have hsame : x = row := Table.eq_of_key hx hr (hfor.request.symm.trans hrequest)
      rw [← hsame]
      exact hfor.organization
    · cases h
      exact administered_of_next ⟨rfl, rfl, rfl, rfl⟩ rfl rfl
        ⟨.decide ⟨hwritten _ _ rfl rfl, rfl, rfl⟩ hpending hpending
          ⟨⟨hfresh, rfl⟩, ⟨rfl, rfl, hrequester, hexecutor, hrole, rfl, rfl⟩, hdistinct⟩ rfl rfl,
          sameTaken_of_grants rfl⟩

theorem decideRequest_administered {actor : ActorContext} {organizationId : OrganizationId}
    {requestId : RequestId} {expectedVersion : Nat} {payload : DecisionCreate}
    {credential : Credential} {now : Time} {seen versions : Db}
    {reply : Except Failure DecisionResult} (hv : plane.approvals.Valid)
    (h : decideRequest actor organizationId requestId expectedVersion payload credential now seen
      versions plane = .ok (reply, next)) : Administered plane next := by
  unfold decideRequest at h
  dsimp only at h
  split at h
  · cases h
  split at h
  · cases h
  split at h
  · cases h
  next row hrow =>
    obtain ⟨hr, hcondition⟩ := Table.one?_mem hrow
    obtain ⟨horg, hid, _, hpending⟩ := of_decide_eq_true hcondition
    split at h
    · obtain ⟨⟨sequence, db₁⟩, haudit, h⟩ := ok_of_bind h
      obtain ⟨audit, rfl⟩ := appendAuditEvent_ok haudit
      cases h
      exact administered_of_next ⟨rfl, rfl, rfl, rfl⟩ rfl rfl
        ⟨.refuse ⟨writeRequest_replaces hr rfl, rfl, rfl⟩ hpending
          (permitOf_refused (.inr (.inr (.inl rfl)))) (.inl rfl) rfl rfl, sameTaken_of_grants rfl⟩
    · split at h
      · cases h
      next hself =>
        split at h
        · cases h
        split at h
        next authority hauthorities =>
          have hrole := role_of_currentActorAuthorities hauthorities
          refine recordDecision_administered hv
            ⟨hr, hpending, rfl, fun hsame => hself (.inl hsame), fun hsame => hself (.inr hsame),
              (List.mem_filter.mp hrole).1, ?_⟩ h
          intro d
          rw [Table.mem_select, decide_eq_true_eq, horg, hid]
        · cases h

end FlowPilot.Control
