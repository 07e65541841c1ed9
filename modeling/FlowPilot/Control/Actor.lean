import FlowPilot.Control.Approval

/-!
# The resolved actor

`resolve_actor` of the Control API: the one active row behind a verified token, with the hash of
the authorization fact that its operations are bound to.
-/

open FlowPilot.Lib

namespace FlowPilot.Control

/-- What the token verifier hands on. -/
structure VerifiedIdentity where
  issuerId : String
  issuerHash : Digest
  subjectHash : Digest
  claimedRole : Role

variable [Sha256]

/-- `_authorization_hash`. -/
def authorizationHash (identity : OidcIdentity) (organization : Organization) (user : User)
    (membership : Membership) (authorities : List ApprovalAuthority) : Digest :=
  stableHash (.obj
    [("schema_version", .str "w10-authorization-fact/1.0"),
      ("identity_id", .id identity.identityId),
      ("identity_version", .num identity.version),
      ("organization_id", .id organization.organizationId),
      ("organization_version", .num organization.version),
      ("user_id", .id user.userId),
      ("user_version", .num user.version),
      ("membership_id", .id membership.membershipId),
      ("membership_version", .num membership.version),
      ("role", .str membership.role.value),
      ("approval_authorities", .arr (authorities.map fun a =>
        .obj [("authority_id", .id a.authorityId),
          ("role", .str a.role.value),
          ("version", .num a.version)]))])

/-- A row of the join in `resolve_actor`. -/
structure ActorRow where
  identity : OidcIdentity
  user : User
  membership : Membership
  organization : Organization

/-- The active user, membership and organization that the join puts beside an identity. -/
def joinActor (db : Db) (identity : OidcIdentity) : Option ActorRow :=
  let user := db.directory.users.one? fun u =>
    u.organizationId = identity.organizationId ∧ u.userId = identity.userId ∧ u.status = .active
  let membership := db.directory.memberships.one? fun m =>
    m.organizationId = identity.organizationId ∧ m.userId = identity.userId ∧ m.status = .active
  let organization := db.directory.organizations.one? fun o =>
    o.organizationId = identity.organizationId ∧ o.status = .active
  match user, membership, organization with
  | some user, some membership, some organization =>
    some ⟨identity, user, membership, organization⟩
  | _, _, _ => none

def actorRows (db : Db) (verified : VerifiedIdentity) : List ActorRow :=
  (db.directory.identities.select fun i =>
    i.issuerId = verified.issuerId ∧ i.issuerHash = verified.issuerHash ∧
      i.subjectHash = verified.subjectHash ∧ i.status = .active).filterMap (joinActor db)

/-- The active authorities of a user, `ORDER BY role, authority_id`. -/
def activeAuthorities (db : Db) (organizationId : OrganizationId) (userId : UserId) :
    List ApprovalAuthority :=
  (db.authorities.select fun a => a.organizationId = organizationId ∧ a.userId = userId ∧
    a.status = .active).insertionSort authorityBefore

/-- `resolve_actor`; the stored roles are those of the enumeration. -/
def resolveActor (db : Db) (verified : VerifiedIdentity) : Except Failure ActorContext :=
  match actorRows db verified with
  | [] => .error (.authorizationDenied "inactive_or_unknown_identity")
  | [row] =>
    if verified.claimedRole ≠ row.membership.role then
      .error (.authorizationDenied "role_claim_mismatch")
    else
      .ok
        { userId := row.user.userId
          organizationId := row.organization.organizationId
          role := row.membership.role
          authorizationHash := authorizationHash row.identity row.organization row.user
            row.membership
            (activeAuthorities db row.organization.organizationId row.user.userId) }
  | _ :: _ :: _ => .error (.runtimeError "MultipleResultsFound")

end FlowPilot.Control
