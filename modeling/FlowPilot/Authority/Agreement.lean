import FlowPilot.Authority.Facts
import FlowPilot.Control.Actor
import FlowPilot.Dispatch.Service

/-!
# The two services hash the same facts

The Control API hashes the fact of the identity that a token names, and the worker that of the one
active identity of the user.  They agree exactly while the user has one active identity.  On the
approvals that the Control API accepts as active they always agree.
-/

open FlowPilot.Lib

namespace FlowPilot

namespace Control

/-- The fact that `_authorization_hash` hashes for a row of `resolve_actor`. -/
def ActorRow.fact (row : ActorRow) (authorities : List ApprovalAuthority) :
    AuthorizationFact where
  identityId := row.identity.identityId
  identityVersion := row.identity.version
  organizationId := row.organization.organizationId
  organizationVersion := row.organization.version
  userId := row.user.userId
  userVersion := row.user.version
  membershipId := row.membership.membershipId
  membershipVersion := row.membership.version
  role := row.membership.role
  authorities := authorities.map fun a => ⟨a.authorityId, a.role, a.version⟩

/-- The fact that a resolved actor is bound to. -/
def actorFact (db : Db) (verified : VerifiedIdentity) : Option AuthorizationFact :=
  match actorRows db verified with
  | [row] =>
    some (row.fact (activeAuthorities db row.organization.organizationId row.user.userId))
  | _ => none

theorem actorFact_ok {db : Db} {verified : VerifiedIdentity} {fact : AuthorizationFact}
    (h : actorFact db verified = some fact) :
    ∃ row ∈ actorRows db verified,
      fact = row.fact (activeAuthorities db row.organization.organizationId row.user.userId) := by
  unfold actorFact at h
  split at h
  next row hrows =>
    rw [hrows]
    exact ⟨row, List.mem_singleton_self row, (Option.some.inj h).symm⟩
  next => cases h

/-- What `resolve_actor` joined to the identity. -/
structure Joined (db : Db) (row : ActorRow) : Prop where
  identity : row.identity ∈ db.directory.identities.rows
  active : row.identity.status = .active
  user : (db.directory.users.one? fun u => u.organizationId = row.identity.organizationId ∧
    u.userId = row.identity.userId ∧ u.status = .active) = some row.user
  membership : (db.directory.memberships.one? fun m =>
    m.organizationId = row.identity.organizationId ∧ m.userId = row.identity.userId ∧
      m.status = .active) = some row.membership
  organization : (db.directory.organizations.one? fun o =>
    o.organizationId = row.identity.organizationId ∧ o.status = .active) = some row.organization

theorem joined_of_mem {db : Db} {verified : VerifiedIdentity} {row : ActorRow}
    (h : row ∈ actorRows db verified) : Joined db row := by
  obtain ⟨identity, hselected, hjoin⟩ := List.mem_filterMap.mp h
  have hidentity := Table.mem_select.mp hselected
  have hmatch := of_decide_eq_true hidentity.2
  unfold joinActor at hjoin
  dsimp only at hjoin
  split at hjoin
  next user membership organization huser hmembership horganization =>
    rw [← Option.some.inj hjoin]
    exact ⟨hidentity.1, hmatch.2.2.2, huser, hmembership, horganization⟩
  next => cases hjoin

theorem Joined.organizationId {db : Db} {row : ActorRow} (h : Joined db row) :
    row.organization.organizationId = row.identity.organizationId :=
  (of_decide_eq_true (Table.one?_mem h.organization).2).1

theorem Joined.userId {db : Db} {row : ActorRow} (h : Joined db row) :
    row.user.userId = row.identity.userId :=
  (of_decide_eq_true (Table.one?_mem h.user).2).2.1

theorem Joined.mem_active {db : Db} {row : ActorRow} (h : Joined db row) :
    row.identity ∈
      Worker.activeIdentities db row.identity.organizationId row.identity.userId := by
  unfold Worker.activeIdentities
  rw [Table.mem_select]
  exact ⟨h.identity, decide_eq_true ⟨rfl, rfl, h.active⟩⟩

/-- Both services read the authorities in the same order. -/
theorem authorityFacts_eq (db : Db) (organizationId : OrganizationId) (userId : UserId) :
    (activeAuthorities db organizationId userId).map
        (fun a => (⟨a.authorityId, a.role, a.version⟩ : AuthorityFact)) =
      Worker.authorityFacts db organizationId userId := rfl

/-- The worker finds the fact of the actor exactly while the user has one active identity. -/
theorem actorFact_agrees {db : Db} {verified : VerifiedIdentity} {fact : AuthorizationFact}
    (h : actorFact db verified = some fact) :
    Worker.authorizationFact db fact.organizationId fact.userId =
      if (Worker.activeIdentities db fact.organizationId fact.userId).length = 1 then some fact
      else none := by
  obtain ⟨row, hrow, rfl⟩ := actorFact_ok h
  have hjoined := joined_of_mem hrow
  show Worker.authorizationFact db row.organization.organizationId row.user.userId =
    if (Worker.activeIdentities db row.organization.organizationId row.user.userId).length = 1
    then _ else none
  rw [hjoined.organizationId, hjoined.userId]
  have hmem := hjoined.mem_active
  unfold Worker.authorizationFact
  rw [hjoined.organization, hjoined.user, hjoined.membership]
  cases hidentities :
      Worker.activeIdentities db row.identity.organizationId row.identity.userId with
  | nil =>
      rw [hidentities] at hmem
      cases hmem
  | cons identity rest =>
      cases rest with
      | nil =>
          rw [hidentities, List.mem_singleton] at hmem
          rw [← hmem, if_pos (by simp)]
          unfold ActorRow.fact
          rw [authorityFacts_eq, ← hjoined.organizationId, ← hjoined.userId]
      | cons other rest =>
          rw [if_neg (by simp)]

end Control

section

variable [Sha256]

namespace Control

theorem authorizationHash_eq (row : ActorRow) (authorities : List ApprovalAuthority) :
    authorizationHash row.identity row.organization row.user row.membership authorities =
      stableHash (row.fact authorities).json := by
  unfold authorizationHash AuthorizationFact.json AuthorizationFact.fields ActorRow.fact
  rw [List.map_map]
  rfl

/-- The actor that `resolve_actor` returns is bound to the fact of its row. -/
theorem resolveActor_fact {db : Db} {verified : VerifiedIdentity} {actor : ActorContext}
    (h : resolveActor db verified = .ok actor) :
    ∃ fact, actorFact db verified = some fact ∧ actor.organizationId = fact.organizationId ∧
      actor.userId = fact.userId ∧ actor.authorizationHash = stableHash fact.json := by
  unfold resolveActor at h
  unfold actorFact
  split at h
  · cases h
  next row hrows =>
    rw [hrows]
    split at h
    · cases h
    · rw [← Except.ok.inj h]
      exact ⟨_, rfl, rfl, rfl, authorizationHash_eq row _⟩
  · cases h

theorem resolveActor_agrees {db : Db} {verified : VerifiedIdentity} {actor : ActorContext}
    (h : resolveActor db verified = .ok actor) :
    Worker.authorizationHash db actor.organizationId actor.userId = some actor.authorizationHash ↔
      (Worker.activeIdentities db actor.organizationId actor.userId).length = 1 := by
  obtain ⟨fact, hfact, horganization, huser, hhash⟩ := resolveActor_fact h
  rw [Worker.authorizationHash_eq, horganization, huser, actorFact_agrees hfact, hhash]
  split_ifs with hone
  · simp [hone]
  · simp [hone]

/-! ## Approvals -/

omit [Sha256] in
/-- An approval that the Control API accepts as active is active for the worker. -/
theorem activeApproval_of_active {db : Db} {request : ApprovalRequest}
    {decision : ApprovalDecision} (h : activeApprover db request decision = true) :
    ∃ authority, Worker.activeApproval db request.organizationId decision = some authority := by
  unfold activeApprover activeMember at h
  simp only [Bool.and_eq_true] at h
  obtain ⟨hauthority, ⟨huser, hmembership⟩, _⟩ := h
  unfold Worker.activeApproval
  dsimp only
  obtain ⟨authority, hauthority⟩ := Option.isSome_iff_exists.mp hauthority
  obtain ⟨user, huser⟩ := Option.isSome_iff_exists.mp huser
  obtain ⟨membership, hmembership⟩ := Option.isSome_iff_exists.mp hmembership
  rw [hauthority, huser, hmembership]
  exact ⟨authority, rfl⟩

omit [Sha256] in
/-- An authority is known by its id, so both services read the version of the same row. -/
theorem authority_of_activeApproval {db : Db} {organizationId : OrganizationId}
    {decision : ApprovalDecision} {authority : ApprovalAuthority}
    (h : Worker.activeApproval db organizationId decision = some authority) :
    (db.authorities.one? fun a =>
      a.organizationId = organizationId ∧ a.authorityId = decision.authorityId) =
        some authority := by
  unfold Worker.activeApproval at h
  dsimp only at h
  split at h
  next found _ _ hfound _ _ =>
    rw [← Option.some.inj h]
    have hmem := Table.one?_mem hfound
    have hmatch := of_decide_eq_true hmem.2
    have hsome := Table.one?_isSome
      (p := fun a => a.organizationId = organizationId ∧ a.authorityId = decision.authorityId)
      hmem.1 (decide_eq_true ⟨hmatch.1, hmatch.2.1⟩)
    obtain ⟨row, hrow⟩ := Option.isSome_iff_exists.mp hsome
    have hrowMem := Table.one?_mem hrow
    have hsame : row = found := Table.eq_of_key hrowMem.1 hmem.1
      ((of_decide_eq_true hrowMem.2).2.trans hmatch.2.1.symm)
    rw [hrow, hsame]
  next => cases h

omit [Sha256] in
theorem approvalItems_agree {db : Db} {request : ApprovalRequest}
    {decisions : List ApprovalDecision} {items : List Json}
    (hactive : ∀ d ∈ decisions, activeApprover db request d = true)
    (h : approvalItems db request.organizationId decisions = .ok items) :
    ∃ approvals, Worker.approvalFactsOf db request.organizationId decisions = some approvals ∧
      items = approvals.map fun a => Json.obj a.fields := by
  induction decisions generalizing items with
  | nil =>
      rw [← Except.ok.inj h]
      exact ⟨[], rfl, rfl⟩
  | cons decision rest ih =>
      obtain ⟨authority, hauthority⟩ :=
        activeApproval_of_active (hactive decision List.mem_cons_self)
      unfold approvalItems at h
      rw [authority_of_activeApproval hauthority] at h
      obtain ⟨others, hothers, hitems⟩ := ok_of_bind h
      obtain ⟨approvals, happrovals, rfl⟩ := ih (fun d hd => hactive d (.tail _ hd)) hothers
      unfold Worker.approvalFactsOf
      rw [hauthority, happrovals]
      exact ⟨_, rfl, (Except.ok.inj hitems).symm⟩

theorem activeApprovalSet_ok {db : Db} {request : ApprovalRequest}
    {decisions : List ApprovalDecision} {setHash : Digest}
    (h : activeApprovalSet db request = .ok (decisions, setHash)) :
    ∃ approvals,
      Worker.approvalFacts db request.organizationId request.requestId = some approvals ∧
      setHash = stableHash (approvalSetJson approvals) := by
  unfold activeApprovalSet at h
  dsimp only at h
  split at h
  · cases h
  · split at h
    next hactive =>
      obtain ⟨hash, hhash, hpair⟩ := ok_of_bind h
      have hdecisions := (Prod.mk.inj (Except.ok.inj hpair)).1
      have hsetHash := (Prod.mk.inj (Except.ok.inj hpair)).2
      rw [← hsetHash]
      obtain ⟨items, hitems, hsealed⟩ := ok_of_bind hhash
      obtain ⟨approvals, happrovals, hjson⟩ :=
        approvalItems_agree (List.all_eq_true.mp hactive) hitems
      refine ⟨approvals, happrovals, ?_⟩
      rw [← Except.ok.inj hsealed, hjson]
      rfl
    · cases h

theorem activeApprovalSet_agrees {db : Db} {request : ApprovalRequest}
    {decisions : List ApprovalDecision} {setHash : Digest}
    (h : activeApprovalSet db request = .ok (decisions, setHash)) :
    Worker.approvalSetHash db request.organizationId request.requestId = some setHash := by
  obtain ⟨approvals, happrovals, hhash⟩ := activeApprovalSet_ok h
  rw [Worker.approvalSetHash_eq, happrovals, hhash]
  rfl

end Control

end

end FlowPilot
