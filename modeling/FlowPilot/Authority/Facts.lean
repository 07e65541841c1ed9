import FlowPilot.Authority.Encoding
import FlowPilot.Worker.Binding

/-!
# The facts behind the hashes

An authorization hash is the hash of one fact about an executor, and an approval-set hash that of
the facts about the approvals of a request.  Equal hashes come from equal facts, or else from two
texts that SHA-256 does not tell apart.
-/

open FlowPilot.Lib

namespace FlowPilot

theorem Role.value_inj {a b : Role} (h : a.value = b.value) : a = b := by
  cases a <;> cases b <;> first | rfl | exact absurd h (by decide)

theorem ApprovalRole.value_inj {a b : ApprovalRole} (h : a.value = b.value) : a = b := by
  cases a <;> cases b <;> first | rfl | exact absurd h (by decide)

/-! ## Authorization -/

structure AuthorityFact where
  authorityId : AuthorityId
  role : ApprovalRole
  version : Nat
  deriving DecidableEq

def AuthorityFact.fields (a : AuthorityFact) : List (String × Json) :=
  [("authority_id", .id a.authorityId), ("role", .str a.role.value), ("version", .num a.version)]

/-- `w10-authorization-fact/1.0`. -/
structure AuthorizationFact where
  identityId : IdentityId
  identityVersion : Nat
  organizationId : OrganizationId
  organizationVersion : Nat
  userId : UserId
  userVersion : Nat
  membershipId : MembershipId
  membershipVersion : Nat
  role : Role
  authorities : List AuthorityFact
  deriving DecidableEq

def AuthorizationFact.fields (f : AuthorizationFact) : List (String × Json) :=
  [("schema_version", .str "w10-authorization-fact/1.0"),
    ("identity_id", .id f.identityId),
    ("identity_version", .num f.identityVersion),
    ("organization_id", .id f.organizationId),
    ("organization_version", .num f.organizationVersion),
    ("user_id", .id f.userId),
    ("user_version", .num f.userVersion),
    ("membership_id", .id f.membershipId),
    ("membership_version", .num f.membershipVersion),
    ("role", .str f.role.value),
    ("approval_authorities", .arr (f.authorities.map fun a => .obj a.fields))]

def AuthorizationFact.json (f : AuthorizationFact) : Json := .obj f.fields

/-! ## Approvals -/

structure ApprovalFact where
  decisionId : DecisionId
  approverUserId : UserId
  authorityId : AuthorityId
  approvalRole : ApprovalRole
  authorityVersion : Nat
  deriving DecidableEq

def ApprovalFact.fields (a : ApprovalFact) : List (String × Json) :=
  [("decision_id", .id a.decisionId),
    ("approver_user_id", .id a.approverUserId),
    ("authority_id", .id a.authorityId),
    ("approval_role", .str a.approvalRole.value),
    ("authority_version", .num a.authorityVersion)]

/-- `w11-required-approval-set/1.0`. -/
def approvalSetJson (approvals : List ApprovalFact) : Json :=
  .obj [("schema_version", .str "w11-required-approval-set/1.0"),
    ("approvals", .arr (approvals.map fun a => .obj a.fields))]

/-! ## Facts are determined by their text -/

section

variable {α : Type} {fields : α → List (String × Json)}

/-- A list of records is determined by its text when each record is. -/
theorem records_of_normal
    (hrecord : ∀ a b, (Json.obj (fields a)).normal = (Json.obj (fields b)).normal → a = b)
    {as bs : List α}
    (h : (Json.arr (as.map fun a => .obj (fields a))).normal =
      (Json.arr (bs.map fun b => .obj (fields b))).normal) : as = bs := by
  unfold Json.normal at h
  have hitems := Json.arr.inj h
  rw [Json.normalItems_eq_map, Json.normalItems_eq_map, List.map_map, List.map_map] at hitems
  exact List.map_injective_iff.mpr hrecord hitems

theorem str_of_normal {s t : String} (h : (Json.str s).normal = (Json.str t).normal) : s = t :=
  Json.str.inj h

theorem id_of_normal {kind : IdKind} {i j : Id kind}
    (h : (Json.id i).normal = (Json.id j).normal) : i = j :=
  Id.text_inj (str_of_normal h)

theorem num_of_normal {m n : Nat} (h : (Json.num m).normal = (Json.num n).normal) : m = n :=
  Int.ofNat_inj.mp (Json.num.inj h)

end

theorem AuthorityFact.of_normal (a b : AuthorityFact)
    (h : (Json.obj a.fields).normal = (Json.obj b.fields).normal) : a = b := by
  have hfield := field_of_normal h (by simp [fields])
  have hid : a.authorityId = b.authorityId :=
    id_of_normal (hfield "authority_id" (by simp [fields]) (by simp [fields]))
  have hrole : a.role = b.role :=
    ApprovalRole.value_inj (str_of_normal (hfield "role" (by simp [fields]) (by simp [fields])))
  have hversion : a.version = b.version :=
    num_of_normal (hfield "version" (by simp [fields]) (by simp [fields]))
  cases a
  cases b
  rw [AuthorityFact.mk.injEq]
  exact ⟨hid, hrole, hversion⟩

theorem AuthorizationFact.of_normal {f g : AuthorizationFact}
    (h : f.json.normal = g.json.normal) : f = g := by
  have hfield := field_of_normal h (by simp [fields])
  have hidentity : f.identityId = g.identityId :=
    id_of_normal (hfield "identity_id" (by simp [fields]) (by simp [fields]))
  have hidentityVersion : f.identityVersion = g.identityVersion :=
    num_of_normal (hfield "identity_version" (by simp [fields]) (by simp [fields]))
  have horganization : f.organizationId = g.organizationId :=
    id_of_normal (hfield "organization_id" (by simp [fields]) (by simp [fields]))
  have horganizationVersion : f.organizationVersion = g.organizationVersion :=
    num_of_normal (hfield "organization_version" (by simp [fields]) (by simp [fields]))
  have huser : f.userId = g.userId :=
    id_of_normal (hfield "user_id" (by simp [fields]) (by simp [fields]))
  have huserVersion : f.userVersion = g.userVersion :=
    num_of_normal (hfield "user_version" (by simp [fields]) (by simp [fields]))
  have hmembership : f.membershipId = g.membershipId :=
    id_of_normal (hfield "membership_id" (by simp [fields]) (by simp [fields]))
  have hmembershipVersion : f.membershipVersion = g.membershipVersion :=
    num_of_normal (hfield "membership_version" (by simp [fields]) (by simp [fields]))
  have hrole : f.role = g.role :=
    Role.value_inj (str_of_normal (hfield "role" (by simp [fields]) (by simp [fields])))
  have hauthorities : f.authorities = g.authorities :=
    records_of_normal AuthorityFact.of_normal
      (hfield "approval_authorities" (by simp [fields]) (by simp [fields]))
  cases f
  cases g
  rw [AuthorizationFact.mk.injEq]
  exact ⟨hidentity, hidentityVersion, horganization, horganizationVersion, huser, huserVersion,
    hmembership, hmembershipVersion, hrole, hauthorities⟩

theorem ApprovalFact.of_normal (a b : ApprovalFact)
    (h : (Json.obj a.fields).normal = (Json.obj b.fields).normal) : a = b := by
  have hfield := field_of_normal h (by simp [fields])
  have hdecision : a.decisionId = b.decisionId :=
    id_of_normal (hfield "decision_id" (by simp [fields]) (by simp [fields]))
  have happrover : a.approverUserId = b.approverUserId :=
    id_of_normal (hfield "approver_user_id" (by simp [fields]) (by simp [fields]))
  have hauthority : a.authorityId = b.authorityId :=
    id_of_normal (hfield "authority_id" (by simp [fields]) (by simp [fields]))
  have hrole : a.approvalRole = b.approvalRole :=
    ApprovalRole.value_inj
      (str_of_normal (hfield "approval_role" (by simp [fields]) (by simp [fields])))
  have hversion : a.authorityVersion = b.authorityVersion :=
    num_of_normal (hfield "authority_version" (by simp [fields]) (by simp [fields]))
  cases a
  cases b
  rw [ApprovalFact.mk.injEq]
  exact ⟨hdecision, happrover, hauthority, hrole, hversion⟩

theorem approvals_of_normal {as bs : List ApprovalFact}
    (h : (approvalSetJson as).normal = (approvalSetJson bs).normal) : as = bs :=
  records_of_normal ApprovalFact.of_normal
    (field_of_normal h (by simp) "approvals" (by simp) (by simp))

/-! ## Facts behind equal hashes -/

section

variable [Sha256]

/-- Different texts with the same hash. -/
def Collision (a b : Json) : Prop :=
  canonicalBytes a ≠ canonicalBytes b ∧ stableHash a = stableHash b

theorem eq_or_collision {α : Type} {json : α → Json} {a b : α}
    (hdetermined : (json a).normal = (json b).normal → a = b)
    (h : stableHash (json a) = stableHash (json b)) : a = b ∨ Collision (json a) (json b) := by
  by_cases hbytes : canonicalBytes (json a) = canonicalBytes (json b)
  · exact .inl (hdetermined (normal_of_canonicalBytes hbytes))
  · exact .inr ⟨hbytes, h⟩

end

/-! ## The worker's facts -/

namespace Worker

/-- The identities among which the worker looks for exactly one. -/
def activeIdentities (db : Db) (organizationId : OrganizationId) (userId : UserId) :
    List OidcIdentity :=
  db.directory.identities.select fun i =>
    i.organizationId = organizationId ∧ i.userId = userId ∧ i.status = .active

def authorityFacts (db : Db) (organizationId : OrganizationId) (userId : UserId) :
    List AuthorityFact :=
  ((db.authorities.select fun a => a.organizationId = organizationId ∧ a.userId = userId ∧
    a.status = .active).insertionSort authorityBefore).map fun a =>
      ⟨a.authorityId, a.role, a.version⟩

/-- What the worker's `_authorization_hash` hashes at `db`. -/
def authorizationFact (db : Db) (organizationId : OrganizationId) (userId : UserId) :
    Option AuthorizationFact :=
  let organization := db.directory.organizations.one? fun o =>
    o.organizationId = organizationId ∧ o.status = .active
  let user := db.directory.users.one? fun u =>
    u.organizationId = organizationId ∧ u.userId = userId ∧ u.status = .active
  let membership := db.directory.memberships.one? fun m =>
    m.organizationId = organizationId ∧ m.userId = userId ∧ m.status = .active
  match organization, user, membership, activeIdentities db organizationId userId with
  | some organization, some user, some membership, [identity] =>
    some
      { identityId := identity.identityId
        identityVersion := identity.version
        organizationId := organization.organizationId
        organizationVersion := organization.version
        userId := user.userId
        userVersion := user.version
        membershipId := membership.membershipId
        membershipVersion := membership.version
        role := membership.role
        authorities := authorityFacts db organizationId userId }
  | _, _, _, _ => none

def approvalFact (decision : ApprovalDecision) (authority : ApprovalAuthority) :
    ApprovalFact where
  decisionId := decision.decisionId
  approverUserId := decision.approverUserId
  authorityId := decision.authorityId
  approvalRole := decision.approvalRole
  authorityVersion := authority.version

def approvalFactsOf (db : Db) (organizationId : OrganizationId) :
    List ApprovalDecision → Option (List ApprovalFact)
  | [] => some []
  | decision :: rest =>
    match activeApproval db organizationId decision with
    | none => none
    | some authority =>
      (approvalFactsOf db organizationId rest).map (approvalFact decision authority :: ·)

/-- What the worker's `_approval_set_hash` hashes at `db`. -/
def approvalFacts (db : Db) (organizationId : OrganizationId) (requestId : RequestId) :
    Option (List ApprovalFact) :=
  approvalFactsOf db organizationId (approvedDecisions db organizationId requestId)

theorem approvalItems_eq (db : Db) (organizationId : OrganizationId)
    (decisions : List ApprovalDecision) :
    approvalItems db organizationId decisions =
      (approvalFactsOf db organizationId decisions).map
        (·.map fun a => Json.obj a.fields) := by
  induction decisions with
  | nil => rfl
  | cons decision rest ih =>
      unfold approvalItems approvalFactsOf
      cases activeApproval db organizationId decision with
      | none => rfl
      | some authority =>
          dsimp only
          rw [ih]
          cases approvalFactsOf db organizationId rest <;> rfl

variable [Sha256]

theorem authorizationHash_eq (db : Db) (organizationId : OrganizationId) (userId : UserId) :
    authorizationHash db organizationId userId =
      (authorizationFact db organizationId userId).map fun f => stableHash f.json := by
  unfold authorizationHash authorizationFact
  dsimp only
  rw [show (db.directory.identities.select fun i => i.organizationId = organizationId ∧
    i.userId = userId ∧ i.status = .active) = activeIdentities db organizationId userId from rfl]
  -- one case for each of the four rows that the two definitions look up
  cases db.directory.organizations.one? fun o =>
    o.organizationId = organizationId ∧ o.status = .active with
  | none => rfl
  | some organization =>
  cases db.directory.users.one? fun u =>
    u.organizationId = organizationId ∧ u.userId = userId ∧ u.status = .active with
  | none => rfl
  | some user =>
  cases db.directory.memberships.one? fun m =>
    m.organizationId = organizationId ∧ m.userId = userId ∧ m.status = .active with
  | none => rfl
  | some membership =>
  cases activeIdentities db organizationId userId with
  | nil => rfl
  | cons identity rest =>
    cases rest with
    | cons other rest => rfl
    | nil =>
      simp only [Option.map_some, AuthorizationFact.json, AuthorizationFact.fields, authorityFacts,
        AuthorityFact.fields, List.map_map]
      rfl

theorem approvalSetHash_eq (db : Db) (organizationId : OrganizationId) (requestId : RequestId) :
    approvalSetHash db organizationId requestId =
      (approvalFacts db organizationId requestId).map
        fun approvals => stableHash (approvalSetJson approvals) := by
  unfold approvalSetHash approvalFacts
  rw [approvalItems_eq, Option.map_map]
  rfl

end Worker

end FlowPilot
