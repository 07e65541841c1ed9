import FlowPilot.Lib.RowLock
import FlowPilot.Store.Db

/-!
# Organization memories

`create_memory`, `update_memory`, `tombstone_memory` and `reset_memories` of the Control API's
`repository.py`, statement by statement: every one of them first updates the memory version of the
organization, and so holds the lock of that row until it commits or rolls back.
-/

open FlowPilot.Lib

namespace FlowPilot.Control

abbrev MemoryId := Id .mem

inductive MemoryField where
  | department | role | location | devicePreference | approvalChain
  deriving DecidableEq, Repr

inductive MemoryStatus where
  | active | tombstone
  deriving DecidableEq, Repr

/-- The columns of `w10_organizations` that the operations use. -/
structure MemoryCollection where
  organizationId : OrganizationId
  memoryVersion : Nat
  deriving DecidableEq, Repr

structure OrganizationMemory where
  memoryId : MemoryId
  organizationId : OrganizationId
  ownerUserId : UserId
  field : MemoryField
  safeValue : String
  status : MemoryStatus
  version : Nat
  validFrom : Time
  expiresAt : Option Time
  contentHash : Digest
  deriving DecidableEq, Repr

instance : Keyed MemoryCollection OrganizationId := ⟨MemoryCollection.organizationId⟩
instance : Keyed OrganizationMemory MemoryId := ⟨OrganizationMemory.memoryId⟩

@[simp] theorem key_collection (c : MemoryCollection) : Keyed.key c = c.organizationId := rfl
@[simp] theorem key_memory (m : OrganizationMemory) : Keyed.key m = m.memoryId := rfl

structure MemoryStore where
  collections : Table MemoryCollection
  memories : Table OrganizationMemory

structure MemoryActor where
  organizationId : OrganizationId
  userId : UserId
  deriving DecidableEq, Repr

structure MemoryCreate where
  field : MemoryField
  safeValue : String
  validFrom : Time
  expiresAt : Option Time
  deriving DecidableEq, Repr

structure MemoryUpdate where
  safeValue : String
  validFrom : Time
  expiresAt : Option Time
  deriving DecidableEq, Repr

/-- `create` comes with the identifier that `_opaque_id` draws for it. -/
inductive MemoryOperation where
  | create (memoryId : MemoryId) (payload : MemoryCreate)
  | update (memoryId : MemoryId) (expectedVersion : Nat) (payload : MemoryUpdate)
  | tombstone (memoryId : MemoryId) (expectedVersion : Nat)
  | reset (expectedCollectionVersion : Nat)
  deriving DecidableEq, Repr

/-- A call of one of the four functions. -/
structure MemoryRequest where
  actor : MemoryActor
  organizationId : OrganizationId
  operation : MemoryOperation
  deriving DecidableEq, Repr

/-- A call that has charged the collection: the version it wrote there, and the rows that its
second statement has written or loaded and changed. -/
structure OpenMemory where
  request : MemoryRequest
  memoryVersion : Nat
  writes : Option (List OrganizationMemory)
  deriving DecidableEq, Repr

/-! ## Statements -/

/-- `_charge_memory_collection`, and the conditional update that `reset_memories` has in its
place. -/
def charge (s : MemoryStore) (r : MemoryRequest) : Option OpenMemory :=
  if r.actor.organizationId ≠ r.organizationId then none
  else
    match s.collections.get? r.actor.organizationId with
    | none => none
    | some collection =>
      match r.operation with
      | .reset expectedCollectionVersion =>
        if collection.memoryVersion = expectedCollectionVersion then
          some ⟨r, collection.memoryVersion + 1, none⟩
        else none
      | .create .. | .update .. | .tombstone .. => some ⟨r, collection.memoryVersion + 1, none⟩

variable [Sha256]

/-- The record of `create_memory`. -/
def newMemory (actor : MemoryActor) (memoryId : MemoryId) (payload : MemoryCreate) :
    OrganizationMemory where
  memoryId := memoryId
  organizationId := actor.organizationId
  ownerUserId := actor.userId
  field := payload.field
  safeValue := payload.safeValue
  status := .active
  version := 1
  validFrom := payload.validFrom
  expiresAt := payload.expiresAt
  contentHash := stableHashText payload.safeValue

/-- The values of `update_memory`. -/
def OrganizationMemory.updated (m : OrganizationMemory) (payload : MemoryUpdate) :
    OrganizationMemory :=
  { m with
    safeValue := payload.safeValue
    validFrom := payload.validFrom
    expiresAt := payload.expiresAt
    contentHash := stableHashText payload.safeValue
    version := m.version + 1 }

/-- `f"tombstone.{organization_id}.{memory_id}.{version}"`. -/
def tombstoneHash (organizationId : OrganizationId) (memoryId : MemoryId) (version : Nat) :
    Digest :=
  stableHashText ("tombstone." ++ organizationId.text ++ "." ++ memoryId.text ++ "." ++
    toString version)

/-- The values of `tombstone_memory`, and what `reset_memories` makes of a record. -/
def OrganizationMemory.tombstoned (m : OrganizationMemory) (organizationId : OrganizationId) :
    OrganizationMemory :=
  { m with
    status := .tombstone
    contentHash := tombstoneHash organizationId m.memoryId (m.version + 1)
    version := m.version + 1 }

/-- `WHERE organization_id, memory_id, version, status = 'active'`. -/
def current (organizationId : OrganizationId) (memoryId : MemoryId) (expectedVersion : Nat)
    (m : OrganizationMemory) : Bool :=
  m.organizationId = organizationId ∧ m.memoryId = memoryId ∧ m.version = expectedVersion ∧
    m.status = .active

/-- `WHERE organization_id, status = 'active'`. -/
def activeIn (organizationId : OrganizationId) (m : OrganizationMemory) : Bool :=
  m.organizationId = organizationId ∧ m.status = .active

/-- The second statement; `create_memory` has none before its commit. -/
def secondStatement (s : MemoryStore) (t : OpenMemory) : Option OpenMemory :=
  let organizationId := t.request.actor.organizationId
  if t.writes.isSome then none
  else
    match t.request.operation with
    | .create .. => none
    | .update memoryId expectedVersion payload =>
      (s.memories.one? (current organizationId memoryId expectedVersion)).map fun m =>
        { t with writes := some [m.updated payload] }
    | .tombstone memoryId expectedVersion =>
      (s.memories.one? (current organizationId memoryId expectedVersion)).map fun m =>
        { t with writes := some [m.tombstoned organizationId] }
    | .reset _ =>
      some { t with
        writes := some ((s.memories.select (activeIn organizationId)).map fun m =>
          m.tombstoned organizationId) }

/-- The rows take the place of those with their identifiers. -/
def replaceMemories (memories : Table OrganizationMemory) (writes : List OrganizationMemory) :
    Table OrganizationMemory :=
  memories.update (fun m => (writes.find? fun w => w.memoryId = m.memoryId).isSome)
    (fun m => (writes.find? fun w => w.memoryId = m.memoryId).getD m) (by
      intro m
      cases hfind : writes.find? fun w => w.memoryId = m.memoryId with
      | none => rfl
      | some w =>
        have hid := List.find?_some hfind
        exact of_decide_eq_true hid)

def chargedTo (s : MemoryStore) (t : OpenMemory) : Table MemoryCollection :=
  s.collections.update (fun c => c.organizationId = t.request.actor.organizationId)
    fun c => { c with memoryVersion := t.memoryVersion }

/-- The flush and the commit; a flush that violates a key raises. -/
def commitMemory (s : MemoryStore) (t : OpenMemory) : Option MemoryStore :=
  match t.request.operation with
  | .create memoryId payload =>
    (s.memories.insert? (newMemory t.request.actor memoryId payload)).map fun memories =>
      ⟨chargedTo s t, memories⟩
  | .update .. | .tombstone .. | .reset _ =>
    t.writes.map fun writes => ⟨chargedTo s t, replaceMemories s.memories writes⟩

/-- The four functions as transactions over the rows of `w10_organizations`. -/
def memoryCalls : RowLock.Protocol MemoryStore OrganizationId MemoryRequest OpenMemory where
  key r := r.actor.organizationId
  owner t := t.request.actor.organizationId
  start := charge
  next := secondStatement
  finish := commitMemory

end FlowPilot.Control
