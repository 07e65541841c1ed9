import FlowPilot.Approvals.RunCalls
import FlowPilot.Lib.Sessions

/-!
# Claims among all other transactions

A claim reads the request, the grant and the run without a lock, one after the other, and checks
them against what the plane says at that moment.  Every other operation of either service, and
other claims, can commit before it does.
-/

open FlowPilot.Lib FlowPilot.Lib.Sessions Relation

namespace FlowPilot

open Control

variable [Sha256]

/-! ## Claims under way -/

/-- What is claimed: a grant, or the grant of a waiting run, which is `current` as it was read. -/
inductive ClaimTarget where
  | grant (requestId : RequestId) (payload : GrantClaim)
  | run (runId : RunId) (expectedVersion : Nat) (payload : RunClaim)
      (current : Option ProductionRun) (visible : List OrganizationId)

def ClaimTarget.requestId : ClaimTarget → Option RequestId
  | .grant requestId _ => some requestId
  | .run _ _ _ current _ => current.bind (·.approvalRequestId)

/-- The reads of `claim_production_run` that come before those of `claim_grant`. -/
def ClaimTarget.read (plane : Plane) (organizationId : OrganizationId) :
    ClaimTarget → ClaimTarget
  | .grant requestId payload => .grant requestId payload
  | .run runId expectedVersion payload _ _ =>
    .run runId expectedVersion payload (loadWaitingRun plane.db organizationId runId)
      (partitionKeys plane.db)

/-- The rows that `claim_grant` loads for the target. -/
def ClaimTarget.rows (db : Db) (organizationId : OrganizationId) (target : ClaimTarget) :
    ClaimRows :=
  match target.requestId with
  | none => ⟨none, none, false⟩
  | some requestId => claimRows db organizationId requestId

/-- A claim under way, with its rows and the plane that its checks have seen. -/
structure Claiming where
  actor : ActorContext
  organizationId : OrganizationId
  now : Time
  target : ClaimTarget
  rows : ClaimRows
  seen : Plane

namespace Claiming

/-- The claim with all its reads taken at `plane`. -/
def read (plane : Plane) (t : Claiming) : Claiming :=
  let target := t.target.read plane t.organizationId
  { t with target := target, rows := target.rows plane.db t.organizationId, seen := plane }

/-- The rows are read one after the other, so the later ones can be those of a later state. -/
inductive RowsReread (fresh rows : ClaimRows) : ClaimRows → Prop where
  | checks : RowsReread fresh rows rows
  | production : RowsReread fresh rows { rows with production := fresh.production }
  | grant : RowsReread fresh rows { fresh with request := rows.request }
  | request : RowsReread fresh rows fresh

inductive Rereads (plane : Plane) (t : Claiming) : Claiming → Prop where
  | rows {rows : ClaimRows}
      (h : RowsReread (t.target.rows plane.db t.organizationId) t.rows rows) :
      Rereads plane t { t with rows := rows, seen := plane }
  | visible {runId : RunId} {expectedVersion : Nat} {payload : RunClaim}
      {current : Option ProductionRun} {visible : List OrganizationId}
      (htarget : t.target = .run runId expectedVersion payload current visible) :
      Rereads plane t
        { t with
          target := .run runId expectedVersion payload current
            (partitionKeys plane.db)
          rows := t.target.rows plane.db t.organizationId
          seen := plane }

/-- The call of `claim_grant` on `plane`, with the rows that were read. -/
def claimsGrant (plane : Plane) (t : Claiming) (requestId : RequestId) (payload : GrantClaim) :
    Except Failure (Outcome ExecutionClaim) :=
  claimGrant t.actor t.organizationId requestId t.now none t.rows
    (rowChecks t.organizationId payload t.now t.rows t.seen) plane.db plane

/-- The call of `claim_production_run` on `plane`, with the rows that were read. -/
def claimsRun (plane : Plane) (t : Claiming) (runId : RunId) (expectedVersion : Nat)
    (payload : RunClaim) (current : Option ProductionRun) (visible : List OrganizationId) :
    Except Failure (Outcome ProductionRun) :=
  claimProductionRun t.actor t.organizationId runId expectedVersion t.now
    { run := current
      visible := visible
      rows := t.rows
      checks := runClaimChecks t.organizationId payload t.now current t.rows t.seen } plane

/-- What the claim commits on `plane`. -/
def commit (plane : Plane) (t : Claiming) : Except Failure (Option Worker.WorkItem × Plane) :=
  match t.target with
  | .grant requestId payload => onPlane (t.claimsGrant plane requestId payload)
  | .run runId expectedVersion payload current visible =>
    onPlane (t.claimsRun plane runId expectedVersion payload current visible)

/-- The execution that the claim answers with on `plane`: its own, or that of the run that it has
queued. -/
def execution? (plane : Plane) (t : Claiming) : Option ExecutionId :=
  match t.target with
  | .grant requestId payload =>
    match t.claimsGrant plane requestId payload with
    | .ok (.ok claim, _) => some claim.executionId
    | _ => none
  | .run runId expectedVersion payload current visible =>
    match t.claimsRun plane runId expectedVersion payload current visible with
    | .ok (.ok run, _) => run.executionId
    | _ => none

end Claiming

/-! ## Every other transaction -/

/-- The operations of `approval.py` other than a claim.  A close reads the issued grants under its
lock of the request, so they are those of the state it commits on.  The execution that is completed
here is not one of a run, which its worker completes. -/
inductive Operates (plane next : Plane) : Prop where
  | createAuthority {actor : ActorContext} {organizationId : OrganizationId} {userId : UserId}
      {role : ApprovalRole} {now : Time} {reply : Except Failure ApprovalAuthority}
      (h : createAuthority actor organizationId userId role now plane = .ok (reply, next))
  | disableAuthority {actor : ActorContext} {organizationId : OrganizationId}
      {authorityId : AuthorityId} {expectedVersion : Nat} {now : Time}
      {affected : List ApprovalGrant} {reply : Except Failure ApprovalAuthority}
      (haffected : affected.Subperm (affectedGrants plane.db organizationId authorityId))
      (h : disableAuthority actor organizationId authorityId expectedVersion now affected plane =
        .ok (reply, next))
  | createExecutionGate {actor : ActorContext} {organizationId : OrganizationId}
      {payload : GateRequest} {now : Time} {reply : Except Failure GateResponse}
      (h : createExecutionGate actor organizationId payload now plane = .ok (reply, next))
  | decideRequest {actor : ActorContext} {organizationId : OrganizationId}
      {requestId : RequestId} {expectedVersion : Nat} {payload : DecisionCreate}
      {credential : Credential} {now : Time} {seen versions : Db}
      {reply : Except Failure DecisionResult}
      (h : decideRequest actor organizationId requestId expectedVersion payload credential now seen
        versions plane = .ok (reply, next))
  | closeRequest {actor : ActorContext} {organizationId : OrganizationId} {requestId : RequestId}
      {expectedVersion : Nat} {reason : ApprovalReason} {invalidate : Bool} {now : Time}
      {reply : Except Failure ApprovalRequest}
      (h : closeRequest actor organizationId requestId expectedVersion reason invalidate now
        (issuedGrants plane.db organizationId requestId) plane = .ok (reply, next))
  | resumeExecutionClaim {actor : ActorContext} {organizationId : OrganizationId}
      {executionId : ExecutionId} {parameterHash authorizationHash : Digest} {now : Time}
      {reply : Except Failure ExecutionClaim}
      (h : resumeExecutionClaim actor organizationId executionId parameterHash authorizationHash
        now plane = .ok (reply, next))
  | completeExecutionClaim {actor : ActorContext} {organizationId : OrganizationId}
      {executionId : ExecutionId} {receiptReference : String} {now : Time}
      {reply : Except Failure Unit}
      (hrun : ∀ run ∈ plane.db.runs.rows, run.executionId ≠ some executionId)
      (h : completeExecutionClaim actor organizationId executionId receiptReference now plane =
        .ok (reply, next))

def Call.claims : Call → Bool
  | .claimRun .. => true
  | _ => false

/-- The steps that are one transaction: the production operations and the worker's, the approval
operations, changes of the directory, and a restart, which loses the vault. -/
inductive World.OtherTransaction : World → World → Prop where
  | call {world : World} {c : Call} {reply : Option Worker.WorkItem} {plane : Plane}
      (hclaim : c.claims = false) (hitem : ∀ item, c.item? = some item → item ∈ world.items)
      (hcommit : c.commit world.plane = .ok (reply, plane)) :
      OtherTransaction world (world.after reply plane)
  | operation {world : World} {plane : Plane} (h : Operates world.plane plane) :
      OtherTransaction world (world.after none plane)
  | directory {world : World} {directory : Directory} :
      OtherTransaction world
        (world.after none ⟨{ world.plane.db with directory := directory }, world.plane.vault⟩)
  | restart {world : World} :
      OtherTransaction world (world.after none ⟨world.plane.db, ⟨[]⟩⟩)

/-- Claims interleaved with each other and with everything else. -/
def claims : Protocol World Claiming where
  opens world t := t.read world.plane = t
  rereads world t u := t.Rereads world.plane u
  commits world t next := ∃ reply plane, t.commit world.plane = .ok (reply, plane) ∧
    next = world.after none plane
  other := World.OtherTransaction

/-! ## What the reads of a claim say -/

/-- The rows that a claim has read were in the store before, and no run has the request when none
was found. -/
structure Claiming.Read (plane : Plane) (t : Claiming) : Prop where
  request : ∀ x, t.rows.request = some x → t.target.requestId = some x.requestId ∧
    x.organizationId = t.organizationId ∧
    ∃ r ∈ plane.db.requests.rows, r.requestId = x.requestId ∧ x.Later r
  grant : ∀ g, t.rows.grant = some g → t.target.requestId = some g.requestId ∧
    ∃ row ∈ plane.db.grants.rows, row.grantId = g.grantId ∧ g.Later row
  production : ∀ x, t.rows.request = some x → t.rows.production = false →
    ∀ run ∈ plane.db.runs.rows, run.approvalRequestId ≠ some x.requestId

variable {plane next : Plane} {t u : Claiming}

omit [Sha256] in
theorem ClaimTarget.request_of_rows {db : Db} {organizationId : OrganizationId}
    {target : ClaimTarget} {x : ApprovalRequest}
    (h : (target.rows db organizationId).request = some x) :
    target.requestId = some x.requestId ∧ x.organizationId = organizationId ∧
      x ∈ db.requests.rows := by
  unfold ClaimTarget.rows at h
  split at h
  · cases h
  next requestId hid =>
    obtain ⟨hx, hcondition⟩ := Table.one?_mem h
    obtain ⟨horg, hrequest⟩ := of_decide_eq_true hcondition
    exact ⟨by rw [hid, hrequest], horg, hx⟩

omit [Sha256] in
theorem ClaimTarget.grant_of_rows {db : Db} {organizationId : OrganizationId}
    {target : ClaimTarget} {g : ApprovalGrant}
    (h : (target.rows db organizationId).grant = some g) :
    target.requestId = some g.requestId ∧ g ∈ db.grants.rows := by
  unfold ClaimTarget.rows at h
  split at h
  · cases h
  next requestId hid =>
    obtain ⟨hg, hcondition⟩ := Table.one?_mem h
    obtain ⟨_, hrequest⟩ := of_decide_eq_true hcondition
    exact ⟨by rw [hid, hrequest], hg⟩

omit [Sha256] in
theorem ClaimTarget.production_of_rows {db : Db} {organizationId : OrganizationId}
    {target : ClaimTarget} {requestId : RequestId} (hid : target.requestId = some requestId)
    (h : (target.rows db organizationId).production = false) {run : ProductionRun}
    (hrun : run ∈ db.runs.rows) (horg : run.organizationId = organizationId) :
    run.approvalRequestId ≠ some requestId := by
  intro hk
  unfold ClaimTarget.rows at h
  rw [hid] at h
  have hfound := Table.one?_isSome (p := fun r : ProductionRun =>
    r.organizationId = organizationId ∧ r.approvalRequestId = some requestId) hrun
    (by simp [horg, hk])
  rw [show (claimRows db organizationId requestId).production = _ from hfound] at h
  cases h

/-- A run with the request is of the organization of the request. -/
theorem Governed.run_organization (hg : Governed plane) {x r : ApprovalRequest}
    (hr : r ∈ plane.db.requests.rows) (hid : r.requestId = x.requestId) (hlater : x.Later r)
    {run : ProductionRun} (hrun : run ∈ plane.db.runs.rows)
    (hk : run.approvalRequestId = some x.requestId) : run.organizationId = x.organizationId := by
  obtain ⟨y, hy, hyid, hyorg⟩ := (hg.runs.bound run hrun _ hk).request
  have hsame : y = r := Table.eq_of_key hy hr (hyid.trans hid.symm)
  have hkept := congrArg ApprovalRequest.organizationId hlater.1
  rw [← hyorg, hsame]
  exact hkept

/-- Reads of the target's rows at this state and before it. -/
theorem Claiming.read_of_rows (hg : Governed plane) {rows : ClaimRows}
    (hrequest : ∀ x, rows.request = some x → t.target.requestId = some x.requestId ∧
      x.organizationId = t.organizationId ∧
      ∃ r ∈ plane.db.requests.rows, r.requestId = x.requestId ∧ x.Later r)
    (hgrant : ∀ g, rows.grant = some g → t.target.requestId = some g.requestId ∧
      ∃ row ∈ plane.db.grants.rows, row.grantId = g.grantId ∧ g.Later row)
    (hproduction : rows.production = (t.target.rows plane.db t.organizationId).production) :
    Claiming.Read plane { t with rows := rows, seen := plane } where
  request := hrequest
  grant := hgrant
  production := by
    intro x hx hnone run hrun hk
    obtain ⟨hid, horg, r, hr, hrid, hlater⟩ := hrequest x hx
    refine ClaimTarget.production_of_rows hid (hproduction ▸ hnone) hrun ?_ hk
    exact (hg.run_organization hr hrid hlater hrun hk).trans horg

omit [Sha256] in
theorem Claiming.fresh_request (x : ApprovalRequest)
    (h : (t.target.rows plane.db t.organizationId).request = some x) :
    t.target.requestId = some x.requestId ∧ x.organizationId = t.organizationId ∧
      ∃ r ∈ plane.db.requests.rows, r.requestId = x.requestId ∧ x.Later r := by
  obtain ⟨hid, horg, hx⟩ := ClaimTarget.request_of_rows h
  exact ⟨hid, horg, x, hx, rfl, .refl x⟩

omit [Sha256] in
theorem Claiming.fresh_grant (g : ApprovalGrant)
    (h : (t.target.rows plane.db t.organizationId).grant = some g) :
    t.target.requestId = some g.requestId ∧
      ∃ row ∈ plane.db.grants.rows, row.grantId = g.grantId ∧ g.Later row := by
  obtain ⟨hid, hg⟩ := ClaimTarget.grant_of_rows h
  exact ⟨hid, g, hg, rfl, .refl g⟩

theorem Claiming.read_read (hg : Governed plane) (t : Claiming) : (t.read plane).Read plane :=
  Claiming.read_of_rows (t := t.read plane) hg (Claiming.fresh_request (t := t.read plane))
    (Claiming.fresh_grant (t := t.read plane)) rfl

theorem Claiming.Rereads.read (hg : Governed plane) (ht : t.Read plane)
    (h : t.Rereads plane u) : u.Read plane := by
  cases h with
  | rows h =>
      -- Each later read is of the request that was read first, whose id the target fixes.
      cases h with
      | checks => exact ⟨ht.request, ht.grant, ht.production⟩
      | production => exact Claiming.read_of_rows hg ht.request ht.grant rfl
      | grant => exact Claiming.read_of_rows hg ht.request Claiming.fresh_grant rfl
      | request => exact Claiming.read_of_rows hg Claiming.fresh_request Claiming.fresh_grant rfl
  | @visible runId expectedVersion payload current visible htarget =>
      have hread :=
        Claiming.read_of_rows (t := t) hg Claiming.fresh_request Claiming.fresh_grant rfl
      refine ⟨?_, ?_, hread.production⟩
      · intro x hx
        have hrequest := hread.request x hx
        rw [htarget] at hrequest
        exact hrequest
      · intro g hgrant
        have hfound := hread.grant g hgrant
        rw [htarget] at hfound
        exact hfound

/-- What was read stays true of it whatever commits. -/
theorem Claiming.Read.kept (h : t.Read plane) (ha : Advanced plane next) : t.Read next where
  request := by
    intro x hx
    obtain ⟨hid, horg, r, hr, hrid, hlater⟩ := h.request x hx
    obtain ⟨r', hr', hkey, hlater'⟩ := Approvals.requests_of_run ha.transitions r hr
    exact ⟨hid, horg, r', hr', Eq.trans hkey hrid, ApprovalRequest.Later.trans _ _ _ hlater hlater'⟩
  grant := by
    intro g hgrant
    obtain ⟨hid, row, hrow, hgid, hlater⟩ := h.grant g hgrant
    obtain ⟨row', hrow', hkey, hlater'⟩ := Approvals.grants_of_run ha.transitions row hrow
    exact ⟨hid, row', hrow', Eq.trans hkey hgid, ApprovalGrant.Later.trans _ _ _ hlater hlater'⟩
  production := by
    intro x hx hnone run hrun hk
    obtain ⟨_, _, r, hr, hrid, _⟩ := h.request x hx
    -- Only an admission gives a run its request, and that request is new then.
    rcases ha.origins run hrun _ hk with ⟨old, hold, hk'⟩ | hnew
    · exact h.production x hx hnone old hold hk'
    · exact hnew r hr hrid

omit [Sha256] in
theorem Claiming.Read.loaded (h : t.Read plane) {request : ApprovalRequest}
    {grant : ApprovalGrant} (hrequest : t.rows.request = some request)
    (hgrant : t.rows.grant = some grant) : Loaded plane.db request grant := by
  obtain ⟨hid, _, hrow⟩ := h.request request hrequest
  obtain ⟨hid', hrow'⟩ := h.grant grant hgrant
  rw [hid] at hid'
  exact ⟨hrow, hrow', (Option.some.inj hid').symm⟩

/-! ## What a transaction advances -/

/-- The checks on the rows that were read, as `claim_grant` or `claim_production_run` makes them. -/
def Claiming.checks (t : Claiming) : Except Failure Unit :=
  match t.target with
  | .grant _ payload => rowChecks t.organizationId payload t.now t.rows t.seen
  | .run _ _ payload current _ =>
    runClaimChecks t.organizationId payload t.now current t.rows t.seen

theorem Claiming.Read.checked (h : t.Read plane) {request : ApprovalRequest}
    {grant : ApprovalGrant} (hrequest : t.rows.request = some request)
    (hgrant : t.rows.grant = some grant) (hchecks : t.checks = .ok ()) :
    Checked t.seen t.now request grant := by
  have hid := (h.request request hrequest).1
  unfold Claiming.checks at hchecks
  split at hchecks
  · exact checked_of_rowChecks hrequest hgrant hchecks
  next current _ htarget =>
    rw [htarget] at hid
    -- Without a run there is no request to check.
    cases current with
    | none => cases hid
    | some run => exact checked_of_rowChecks hrequest hgrant hchecks

/-- How a claim ends: it takes no permit, or that of the rows that its checks have passed. -/
inductive Claiming.Ends (t : Claiming) (plane next : Plane) : Prop where
  | spared (h : plane.approvals.registry.SameExecutions next.approvals.registry)
  | taken {request request' : ApprovalRequest} {grant grant' : ApprovalGrant} {e : ExecutionId}
      (hrequest : t.rows.request = some request) (hgrant : t.rows.grant = some grant)
      (hchecked : Checked t.seen t.now request grant) (hexecution : t.execution? plane = some e)
      (h : plane.approvals.Moved next.approvals request request' grant grant' .granted (.taken e))

theorem Claiming.Read.approved (h : t.Read plane) (request : ApprovalRequest)
    (grant : ApprovalGrant) (hrequest : t.rows.request = some request)
    (hgrant : t.rows.grant = some grant) (hchecks : t.checks = .ok ()) :
    Loaded plane.db request grant ∧ request.status = .approved :=
  ⟨h.loaded hrequest hgrant, (h.checked hrequest hgrant hchecks).approved⟩

theorem Claiming.ends {reply : Option Worker.WorkItem} (hg : Governed plane)
    (ht : t.Read plane) (h : t.commit plane = .ok (reply, next)) : t.Ends plane next := by
  have happroved := ht.approved
  unfold Claiming.checks at happroved
  unfold Claiming.commit at h
  split at h
  next requestId payload htarget =>
    rw [htarget] at happroved
    obtain ⟨result, hbody, _⟩ := onPlane_ok h
    rcases claimGrant_operated hg.valid happroved hbody with hadministered |
      ⟨_, _, request, grant, hrequest, hgrant, hchecks, _, _, claim, rfl, hmoved⟩
    · exact .spared (Administered.spared hadministered hg).executions
    · refine .taken hrequest hgrant (checked_of_rowChecks hrequest hgrant hchecks) ?_ hmoved
      unfold Claiming.execution?
      rw [htarget]
      dsimp only
      rw [hbody]
  next runId expectedVersion payload current visible htarget =>
    rw [htarget] at happroved
    obtain ⟨result, hbody, _⟩ := onPlane_ok h
    cases claimProductionRun_end hg.valid happroved hbody with
    | idle hruns hsame hvault => exact .spared (spared_of_same hg hruns hsame hvault).executions
    | taken hrequest hgrant hchecks hmoved _ _ hterms hreply =>
        refine .taken hrequest hgrant (ht.checked hrequest hgrant ?_) ?_ hmoved
        · unfold Claiming.checks
          rw [htarget]
          exact hchecks
        · unfold Claiming.execution?
          rw [htarget]
          dsimp only
          rw [hbody, hreply]
          dsimp only
          rw [hterms.terms]

theorem Claiming.advanced {reply : Option Worker.WorkItem} (hg : Governed plane)
    (ht : t.Read plane) (h : t.commit plane = .ok (reply, next)) : Advanced plane next := by
  have happroved := ht.approved
  unfold Claiming.checks at happroved
  unfold Claiming.commit at h
  split at h
  next requestId payload htarget =>
    rw [htarget] at happroved
    obtain ⟨result, hbody, _⟩ := onPlane_ok h
    exact (claimGrant_advanced hg happroved ht.production hbody).2
  next runId expectedVersion payload current visible htarget =>
    rw [htarget] at happroved
    obtain ⟨result, hbody, _⟩ := onPlane_ok h
    exact claimProductionRun_advanced hg happroved hbody

theorem Call.spared {c : Call} {reply : Option Worker.WorkItem} (hc : plane.db.Consistent)
    (hg : Governed plane) (hclaim : c.claims = false)
    (hitem : ∀ item, c.item? = some item → Worker.Issued plane.db item)
    (h : c.commit plane = .ok (reply, next)) : Spared plane next := by
  cases hkind : c.item? with
  | some item =>
      obtain ⟨_, w, hworked⟩ := c.commit_worked hc hkind (hitem item hkind) h
      have hvault : next = { plane with db := next.db } := by
        cases c <;> cases hkind <;> (obtain ⟨_, _, _, _, rfl⟩ := onDb_ok h; rfl)
      rw [hvault]
      exact hworked.spared hg (hitem item hkind)
  | none =>
      cases c <;> cases hkind
      case none.admitRun.refl =>
        obtain ⟨result, hbody, _⟩ := onPlane_ok h
        exact admitLocked_spared hc hg hbody
      case none.claimRun.refl => cases hclaim
      case none.cancel.refl =>
        obtain ⟨result, hbody, _⟩ := onPlane_ok h
        exact cancelProductionRun_spared hg hbody
      case none.claimNext.refl =>
        obtain ⟨a, db, hbody, _, rfl⟩ := onDb_ok h
        exact (Worker.claimNext_ok hc hbody).spared hg

theorem Operates.spared (hg : Governed plane) (h : Operates plane next) :
    Operated plane next ∧ Spared plane next := by
  have hadministered (ha : Administered plane next) :
      Operated plane next ∧ Spared plane next :=
    ⟨ha.toOperated, Administered.spared ha hg⟩
  cases h with
  | createAuthority h => exact hadministered (createAuthority_administered h)
  | disableAuthority haffected h =>
      exact hadministered (disableAuthority_administered hg.valid haffected h)
  | createExecutionGate h => exact hadministered (createExecutionGate_administered h)
  | decideRequest h => exact hadministered (decideRequest_administered hg.valid h)
  | closeRequest h => exact hadministered (closeRequest_administered hg.valid h)
  | resumeExecutionClaim h => exact hadministered (resumeExecutionClaim_administered h)
  | completeExecutionClaim hrun h => exact completeExecutionClaim_spared hg hrun h

/-! ## Whole runs -/

/-- The tables of the two services are valid and the runs bound to their approvals. -/
structure World.Sound (world : World) : Prop extends world.Valid where
  governed : Governed world.plane

/-- What one transaction does to a sound world. -/
structure World.Advances (world next : World) : Prop where
  sound : next.Sound
  advanced : Advanced world.plane next.plane

theorem World.sound_start (directory : Directory) (authorities : Table ApprovalAuthority)
    (heads : Table AuditChainHead) : (World.start directory authorities heads).Sound where
  toValid := World.valid_start directory authorities heads
  governed :=
    { valid := Approvals.valid_empty
      runs :=
        { bound := fun _ hr => (List.not_mem_nil hr).elim
          unbound := fun _ hr => (List.not_mem_nil hr).elim
          single := fun _ hr => (List.not_mem_nil hr).elim } }

theorem World.Sound.advances {world : World} {reply : Option Worker.WorkItem} {plane : Plane}
    (hs : world.Sound) (hvalid : (world.after reply plane).Valid)
    (ha : Advanced world.plane plane) : world.Advances (world.after reply plane) :=
  ⟨⟨hvalid, ha.governed hs.governed⟩, ha⟩

/-- A change of the approval tables alone. -/
theorem World.Sound.approvals {world : World} {plane : Plane} (hs : world.Sound)
    (hsame : ApprovalsOnly world.plane.db plane.db) (ha : Advanced world.plane plane) :
    world.Advances (world.after none plane) :=
  hs.advances (World.Step.valid hs.toValid (.approvals hsame)) ha

theorem World.OtherTransaction.spared {world next : World} (hs : world.Sound)
    (h : world.OtherTransaction next) :
    world.Advances next ∧ world.plane.approvals.registry.SameExecutions
      next.plane.approvals.registry := by
  cases h with
  | call hclaim hitem hcommit =>
      have hspared := Call.spared hs.consistent hs.governed hclaim
        (fun item hc => hs.issued item (hitem item hc)) hcommit
      exact ⟨hs.advances (World.Step.valid hs.toValid (.call hitem hcommit)) hspared.toAdvanced,
        hspared.executions⟩
  | operation h =>
      obtain ⟨hoperated, hspared⟩ := h.spared hs.governed
      exact ⟨hs.approvals hoperated.approvalsOnly hspared.toAdvanced, hspared.executions⟩
  | directory =>
      -- Roles and memberships say who may claim, not who has.
      exact ⟨hs.approvals ⟨⟨rfl, rfl, rfl, rfl⟩, rfl, rfl, fun _ h => h⟩
        ⟨.refl, hs.governed.runs, origins_of_runs rfl⟩, fun _ => rfl⟩
  | restart =>
      -- The vault is empty, so the grants that are still issued can no longer be claimed.
      have hspared : Spared world.plane ⟨world.plane.db, ⟨[]⟩⟩ :=
        spared_of_same hs.governed rfl ⟨rfl, rfl, rfl, rfl, rfl, rfl⟩ (List.nil_sublist _)
      exact ⟨hs.approvals ⟨⟨rfl, rfl, rfl, rfl⟩, rfl, rfl, fun _ h => h⟩ hspared.toAdvanced,
        hspared.executions⟩

theorem World.Sound.claiming {world : World} {t : Claiming} {reply : Option Worker.WorkItem}
    {plane : Plane} (hs : world.Sound) (ht : t.Read world.plane)
    (h : t.commit world.plane = .ok (reply, plane)) :
    world.Advances (world.after none plane) := by
  have ha := Claiming.advanced hs.governed ht h
  have happroved := ht.approved
  unfold Claiming.checks at happroved
  refine hs.advances ?_ ha
  -- A claim of a grant touches no run; that of a run is a step of the dispatch tables.
  unfold Claiming.commit at h
  split at h
  next requestId payload htarget =>
    rw [htarget] at happroved
    obtain ⟨result, hbody, _⟩ := onPlane_ok h
    have hoperated := (claimGrant_advanced hs.governed happroved ht.production hbody).1
    exact World.Step.valid hs.toValid (.approvals hoperated.approvalsOnly)
  next runId expectedVersion payload current visible htarget =>
    obtain ⟨result, hbody, rfl⟩ := onPlane_ok h
    refine hs.after ?_ fun item hreply => by cases hreply
    exact (claimProductionRun_ok hs.consistent hbody).step

theorem World.Advances.reads {world next : World} (h : world.Advances next) (t : Claiming)
    (ht : t.Read world.plane) : t.Read next.plane :=
  ht.kept h.advanced

/-- The step lemma of the protocol: what was read of a sound world stays true of it. -/
theorem claims_invariant :
    Invariant claims Anything World.Sound fun world t => t.Read world.plane where
  opens := by
    intro world t hs h
    rw [← show t.read world.plane = t from h]
    exact Claiming.read_read hs.governed t
  rereads := fun _ _ _ hs ht h => Claiming.Rereads.read hs.governed ht h
  commits := by
    rintro world t _ hs ht _ ⟨reply, plane, h, rfl⟩
    have ha := hs.claiming ht h
    exact ⟨ha.sound, ha.reads⟩
  other := by
    intro world next hs h
    have ha := (World.OtherTransaction.spared hs h).1
    exact ⟨ha.sound, ha.reads⟩

end FlowPilot
