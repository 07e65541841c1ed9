import FlowPilot.Approvals.Operations

/-!
# Claims of grants

A claim checks rows that it read without a lock, and its compare-and-set finds the grant that it
read or none.  While a grant is issued its request is not written, so the request that was read is
the row that is written too.
-/

open FlowPilot.Lib Relation

namespace FlowPilot.Control

variable [Sha256] {db after : Db} {plane next : Plane}

/-! ## What was read -/

/-- The request and the grant were rows of `db` or of a state before it. -/
structure Loaded (db : Db) (request : ApprovalRequest) (grant : ApprovalGrant) : Prop where
  requestRow : ∃ r ∈ db.requests.rows, r.requestId = request.requestId ∧ request.Later r
  grantRow : ∃ g ∈ db.grants.rows, g.grantId = grant.grantId ∧ grant.Later g
  pair : grant.requestId = request.requestId

/-- What the checks of a claim have seen at `plane`. -/
structure Checked (plane : Plane) (now : Time) (request : ApprovalRequest)
    (grant : ApprovalGrant) : Prop where
  approved : request.status = .approved
  issued : grant.status = .issued
  unexpired : now < request.expiresAt ∧ now < grant.expiresAt
  covered : coversRoles request
    (approvedDecisions plane.db request.organizationId request.requestId)
  active : ∀ d ∈ approvedDecisions plane.db request.organizationId request.requestId,
    activeApprover plane.db request d = true
  sameSet : approvalSetHash plane.db request.organizationId
    (approvedDecisions plane.db request.organizationId request.requestId) =
      .ok grant.approvalSetHash
  held : ∃ credential, plane.vault.peek grant.grantId = some credential ∧
    grant.tokenHash = stableHashText credential.token ∧
    grant.nonceHash = stableHashText credential.nonce

theorem checked_of_rowChecks {organizationId : OrganizationId} {payload : GrantClaim} {now : Time}
    {rows : ClaimRows} {request : ApprovalRequest} {grant : ApprovalGrant}
    (hrequest : rows.request = some request) (hgrant : rows.grant = some grant)
    (h : rowChecks organizationId payload now rows plane = .ok ()) :
    Checked plane now request grant := by
  unfold rowChecks at h
  rw [hrequest, hgrant] at h
  dsimp only at h
  unfold claimChecks at h
  split at h
  · cases h
  next credential hpeek =>
    obtain ⟨evaluation, _, h⟩ := ok_of_bind h
    obtain ⟨⟨decisions, setHash⟩, hset, h⟩ := ok_of_bind h
    dsimp only at h
    split at h
    next hclaimable =>
      obtain ⟨happroved, hissued, hopen, hlive, _, _, _, _, _, _, _, _, _, hhash, htoken, hnonce,
        _⟩ := hclaimable
      unfold activeApprovalSet at hset
      dsimp only at hset
      split at hset
      · cases hset
      next hcovers =>
        split at hset
        next hactive =>
          obtain ⟨digest, hdigest, hset⟩ := ok_of_bind hset
          cases hset
          refine ⟨happroved, hissued, ⟨hopen, hlive⟩, not_not.mp hcovers,
            List.all_eq_true.mp hactive, ?_, credential, hpeek, htoken, hnonce⟩
          rw [hhash]
          exact hdigest
        · cases hset
    · cases h

omit [Sha256] in
theorem freshExecutionId_fresh {g : ApprovalGrant} (hg : g ∈ db.grants.rows) :
    g.executionId ≠ some db.freshExecutionId := by
  intro hsame
  have hmem : db.freshExecutionId.token ∈
      db.grants.rows.filterMap (·.executionId.map Id.token) := by
    refine List.mem_filterMap.mpr ⟨g, hg, ?_⟩
    rw [hsame]
    rfl
  exact Nat.lt_irrefl _ (lt_freshToken hmem)

/-! ## The compare-and-set -/

/-- The rows that the compare-and-set finds are those that were read. -/
theorem GrantTaken.found {actor : ActorContext} {request claimed : ApprovalRequest}
    {grant taken : ApprovalGrant} {now : Time} {mid : Db} {claim : ExecutionClaim} {vault : Vault}
    (h : GrantTaken actor request grant now db mid claimed taken claim)
    (hv : (db.approvals vault).Valid) (hloaded : Loaded db request grant)
    (happroved : request.status = .approved) :
    request ∈ db.requests.rows ∧ GrantedFor request grant ∧ grant.status = .issued ∧
      now < grant.expiresAt ∧ Table.Replaces db.grants mid.grants grant taken ∧
      taken = { grant with
        status := .claimed
        version := grant.version + 1
        executionId := some claim.executionId
        authorizationHash := some actor.authorizationHash
        claimedAt := some now
        updatedAt := now } := by
  obtain ⟨current, hcurrent, _, hid, hissued, hversion, hlive, htaken, hreplaces⟩ := h.current
  obtain ⟨⟨r, hr, hrid, hrlater⟩, ⟨g, hg, hgid, hglater⟩, hpair⟩ := hloaded
  -- The version that the compare-and-set asks for rules out every later row of the grant.
  have hsame : g = current := Table.eq_of_key hg hcurrent (hgid.trans hid.symm)
  rw [hsame] at hglater
  have hgrant : current = grant := hglater.eq_of_version hversion
  rw [hgrant] at hcurrent hissued hlive htaken hreplaces
  -- The request of an issued grant is approved, and an approved request is the one that was read.
  obtain ⟨x, hx, hfor, hxapproved, _, _⟩ := issued_request hv hcurrent hissued
  have hxr : x = r := Table.eq_of_key hx hr (hfor.request.symm.trans (hpair.trans hrid.symm))
  rw [hxr] at hfor hxapproved
  have hrequest : r = request := hrlater.eq_of_approved happroved hxapproved
  rw [hrequest] at hr hfor
  exact ⟨hr, hfor, hissued, hlive, hreplaces, htaken⟩

theorem GrantTaken.moves {actor : ActorContext} {request claimed : ApprovalRequest}
    {grant taken : ApprovalGrant} {now : Time} {mid : Db} {claim : ExecutionClaim} {vault : Vault}
    (h : GrantTaken actor request grant now db mid claimed taken claim)
    (hv : (db.approvals vault).Valid) (hloaded : Loaded db request grant)
    (happroved : request.status = .approved) :
    (db.approvals vault).Moved (mid.approvals (vault.discard grant.grantId)) request
      (written request claimed) grant taken .granted (.taken claim.executionId) := by
  obtain ⟨hr, hfor, hissued, _, hreplaces, htaken⟩ := h.found hv hloaded happroved
  obtain ⟨p, hp⟩ := hv.permit_of_grant hr hreplaces.mem hfor.request
  obtain ⟨_, hfree, rfl⟩ := permitOf_issued hp hissued
  have hid : claimed.requestId = request.requestId := by rw [h.claimed_terms]
  have hstatus : claimed.status = .claimed := by rw [h.claimed_terms]
  have hversion : claimed.version = request.version + 1 := by rw [h.claimed_terms]
  have hwritten : Table.Replaces db.requests mid.requests request (written request claimed) := by
    rw [h.requests]
    exact writeRequest_replaces hr hid.symm
  have htakenStatus : taken.status = .claimed := by rw [htaken]
  have hexecution : taken.executionId = some claim.executionId := by rw [htaken]
  refine ⟨⟨hwritten, rfl, hversion⟩, hreplaces, by rw [htaken]; rfl, by rw [htaken],
    hfor.request, hp, permitOf_taken hstatus htakenStatus hexecution, .take _, ?_, h.decisions,
    List.filter_sublist, ?_⟩
  · intro e _ he x hx
    cases he
    rw [h.execution]
    exact freshExecutionId_fresh hx
  · intro e he
    exact of_decide_eq_true (List.mem_filter.mp he).2

/-! ## claim_grant -/

/-- A rejected claim has only written the audit log, of its own or of the committed state. -/
inductive ClaimCases (actor : ActorContext) (now : Time) (onClaim : Option OnClaim)
    (rows : ClaimRows) (checks : Except Failure Unit) (committed : Db) (plane after : Plane) :
    Except Failure ExecutionClaim → Prop where
  | rejected {failure : Failure} (audit : AuditLog)
      (hdb : after.db = { plane.db with audit := audit } ∨
        after.db = { committed with audit := audit })
      (hvault : after.vault = plane.vault ∨ ∃ grantId, after.vault = plane.vault.discard grantId) :
      ClaimCases actor now onClaim rows checks committed plane after (.error failure)
  | claimed {request : ApprovalRequest} {grant : ApprovalGrant} {claim : ExecutionClaim}
      (hrequest : rows.request = some request) (hgrant : rows.grant = some grant)
      (hproduction : rows.production → onClaim.isSome) (hchecks : checks = .ok ())
      (hcommit : commitClaim actor request grant now onClaim plane.db = .ok (claim, after.db))
      (hvault : after.vault = plane.vault.discard grant.grantId) :
      ClaimCases actor now onClaim rows checks committed plane after (.ok claim)

theorem claimGrant_cases {actor : ActorContext} {organizationId : OrganizationId}
    {requestId : RequestId} {now : Time} {onClaim : Option OnClaim} {rows : ClaimRows}
    {checks : Except Failure Unit} {committed : Db} {reply : Except Failure ExecutionClaim}
    (h : claimGrant actor organizationId requestId now onClaim rows checks committed plane =
      .ok (reply, next)) : ClaimCases actor now onClaim rows checks committed plane next reply := by
  unfold claimGrant at h
  split at h
  · cases h
  split at h
  next request grant hrequest hgrant =>
    split at h
    · obtain ⟨⟨_, db₁⟩, haudit, h⟩ := ok_of_bind h
      obtain ⟨audit, rfl⟩ := appendAuditEvent_ok haudit
      cases h
      exact .rejected audit (.inl rfl) (.inl rfl)
    next hallowed =>
      have hproduction : rows.production → onClaim.isSome := by
        intro hp
        by_contra hnone
        exact hallowed (.inr ⟨hp, by simpa using hnone⟩)
      split at h
      next claim db₁ hcommit =>
        cases h
        obtain ⟨_, hchecks, hcommit⟩ := ok_of_bind hcommit
        exact .claimed hrequest hgrant hproduction hchecks hcommit rfl
      next failure _ =>
        split at h
        · dsimp only at h
          split at h
          next haudit =>
            obtain ⟨audit, haudit⟩ := appendAuditEvent_ok haudit
            cases h
            exact .rejected audit (.inr haudit) (.inr ⟨_, rfl⟩)
          · cases h
            exact .rejected committed.audit (.inr rfl) (.inr ⟨_, rfl⟩)
        · cases h
  next =>
    dsimp only at h
    obtain ⟨⟨_, db₁⟩, haudit, h⟩ := ok_of_bind h
    obtain ⟨audit, rfl⟩ := appendAuditEvent_ok haudit
    cases h
    exact .rejected audit (.inl rfl) (.inl rfl)

/-- Without `on_claim` a claim writes nothing of a run. -/
theorem commitClaim_traces {actor : ActorContext} {request : ApprovalRequest}
    {grant : ApprovalGrant} {now : Time} {claim : ExecutionClaim}
    (h : commitClaim actor request grant now none db = .ok (claim, after)) :
    after.traces = db.traces := by
  unfold commitClaim at h
  dsimp only at h
  split at h
  · cases h
  · obtain ⟨⟨sequence, db₁⟩, haudit, h⟩ := ok_of_bind h
    obtain ⟨audit, rfl⟩ := appendAuditEvent_ok haudit
    obtain ⟨⟨_, db₂⟩, hstarted, h⟩ := ok_of_bind h
    obtain ⟨audit', rfl⟩ := appendAuditEvent_ok hstarted
    cases h
    rfl

/-- A claim without a run takes one permit, or nothing happens to the grants that were taken. -/
theorem claimGrant_operated {actor : ActorContext} {organizationId : OrganizationId}
    {requestId : RequestId} {now : Time} {rows : ClaimRows} {checks : Except Failure Unit}
    {reply : Except Failure ExecutionClaim} (hv : plane.approvals.Valid)
    (hloaded : ∀ request grant, rows.request = some request → rows.grant = some grant →
      checks = .ok () → Loaded plane.db request grant ∧ request.status = .approved)
    (h : claimGrant actor organizationId requestId now none rows checks plane.db plane =
      .ok (reply, next)) :
    Administered plane next ∨ Operated plane next ∧ rows.production = false ∧
      ∃ request grant, rows.request = some request ∧ rows.grant = some grant ∧ checks = .ok () ∧
        ∃ request' grant' claim, reply = .ok claim ∧
          plane.approvals.Moved next.approvals request request' grant grant'
            .granted (.taken claim.executionId) := by
  cases claimGrant_cases h with
  | rejected audit hdb hvault =>
      have hnext : next = ⟨{ plane.db with audit := audit }, next.vault⟩ := by
        rw [← or_self_iff.mp hdb]
      rw [hnext]
      exact .inl (administered_of_audit hvault)
  | @claimed request grant claim hrequest hgrant hproduction hchecks hcommit hvault =>
      obtain ⟨hread, happroved⟩ := hloaded request grant hrequest hgrant hchecks
      obtain ⟨mid, claimed, taken, htaken, hsame⟩ := commitClaim_ok hcommit
      have hmid : next.db = mid := hsame
      have htraces := commitClaim_traces hcommit
      have hmoved := htaken.moves hv hread happroved
      rw [← hmid] at htaken hmoved
      rw [← hvault] at hmoved
      refine .inr ⟨⟨⟨htaken.quiet.runs, htaken.quiet.outbox, htaken.quiet.leases,
        htaken.partitions⟩, htaken.idempotency, htraces, .single (.move hmoved)⟩, ?_, request,
        grant, hrequest, hgrant, hchecks, _, taken, claim, rfl, hmoved⟩
      by_contra hrun
      rw [Bool.not_eq_false] at hrun
      cases hproduction hrun

/-! ## complete_execution_claim -/

theorem operated_of_moved {r r' : ApprovalRequest} {g g' : ApprovalGrant}
    {p q : Permit ExecutionId} (hqueue : Db.SameQueue plane.db next.db)
    (hidempotency : next.db.idempotency = plane.db.idempotency)
    (htraces : next.db.traces = plane.db.traces)
    (h : plane.approvals.Moved next.approvals r r' g g' p q) :
    Operated plane next ∧ ∃ request request' grant grant',
      plane.approvals.Moved next.approvals request request' grant grant' p q :=
  ⟨⟨hqueue, hidempotency, htraces, .single (.move h)⟩, r, r', g, g', h⟩

theorem completeExecutionClaim_operated {actor : ActorContext} {organizationId : OrganizationId}
    {executionId : ExecutionId} {receiptReference : String} {now : Time}
    {reply : Except Failure Unit} (hv : plane.approvals.Valid)
    (h : completeExecutionClaim actor organizationId executionId receiptReference now plane =
      .ok (reply, next)) :
    Operated plane next ∧ ∃ request request' grant grant',
      plane.approvals.Moved next.approvals request request' grant grant' (.taken executionId)
        (.spent executionId) := by
  unfold completeExecutionClaim at h
  dsimp only at h
  split at h
  · cases h
  split at h
  · cases h
  split at h
  · cases h
  next grant hgrant =>
    obtain ⟨hg, hcondition⟩ := Table.one?_mem hgrant
    obtain ⟨_, hexecution, _, hclaimed⟩ := of_decide_eq_true hcondition
    split at h
    · cases h
    next request hrequest =>
      obtain ⟨hr, hcondition⟩ := Table.one?_mem hrequest
      obtain ⟨_, hid, _⟩ := of_decide_eq_true hcondition
      obtain ⟨p, hp⟩ := hv.permit_of_grant hr hg hid.symm
      obtain ⟨hstatus, e, he, rfl⟩ := permitOf_claimed hp hclaimed
      rw [hexecution] at he
      cases he
      obtain ⟨⟨sequence, db₁⟩, haudit, h⟩ := ok_of_bind h
      obtain ⟨audit, rfl⟩ := appendAuditEvent_ok haudit
      obtain ⟨⟨_, db₂⟩, hdone, h⟩ := ok_of_bind h
      obtain ⟨audit', rfl⟩ := appendAuditEvent_ok hdone
      cases h
      have hgrants : Table.Replaces plane.db.grants
          (plane.db.grants.update (fun g => g.grantId = grant.grantId) fun g =>
            { g with
              status := .consumed
              version := g.version + 1
              receiptReference := some receiptReference
              consumedAt := some now
              updatedAt := now }) grant
          { grant with
            status := .consumed
            version := grant.version + 1
            receiptReference := some receiptReference
            consumedAt := some now
            updatedAt := now } :=
        Table.replaces_update hg (by simp) (by simp)
      exact operated_of_moved ⟨rfl, rfl, rfl, rfl⟩ rfl rfl
        ⟨⟨writeRequest_replaces hr rfl, rfl, rfl⟩, hgrants, rfl, rfl, hid.symm, hp,
          permitOf_spent rfl rfl hexecution, .spend executionId,
          Permit.fresh_of_taken rfl, rfl,
          List.Sublist.refl _, hv.no_credential hg (by rw [hclaimed]; decide)⟩

end FlowPilot.Control
