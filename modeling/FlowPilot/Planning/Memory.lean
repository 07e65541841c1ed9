import FlowPilot.Planning.ContextSchemas

/-!
# Organization memory

`OrganizationMemoryStore` of `memory.py`: records of a scope under their ids.  A call runs under the
lock of the store, so it is one step on the records.
-/

namespace FlowPilot.Planning.Context

variable [Sha256]

inductive MemoryStatus where
  | active | tombstone
  deriving DecidableEq, Repr

structure OrganizationMemoryRecord where
  memoryId : String
  scopeId : String
  ownerTaskId : String
  field : MemoryField
  safeValue : String
  version : Nat
  status : MemoryStatus
  validFrom : UtcTime
  expiresAt : Option UtcTime
  contentHash : Digest
  deriving DecidableEq

/-- `_records`, in the order in which their keys came. -/
abbrev OrganizationMemoryStore := List OrganizationMemoryRecord

/-- The exceptions of a call; `valueError` is that of a schema. -/
inductive MemoryError where
  | scopeViolation
  | valueError
  deriving DecidableEq

namespace OrganizationMemoryStore

/-- Whether a record stands under a key. -/
def hasKey (scopeId memoryId : String) (record : OrganizationMemoryRecord) : Bool :=
  decide (record.scopeId = scopeId ∧ record.memoryId = memoryId)

/-- `self._records.get(key)`. -/
def get (store : OrganizationMemoryStore) (scopeId memoryId : String) :
    Option OrganizationMemoryRecord :=
  store.find? (hasKey scopeId memoryId)

/-- `self._records[key] = record`. -/
def put (store : OrganizationMemoryStore) (record : OrganizationMemoryRecord) :
    OrganizationMemoryStore :=
  if store.any (hasKey record.scopeId record.memoryId) then
    store.map fun old => if hasKey record.scopeId record.memoryId old then record else old
  else store ++ [record]

def tombstoneText (memoryId : String) (version : Nat) : String :=
  "tombstone." ++ memoryId ++ "." ++ toString version

/-- The record that a mutation writes; `current` is the one under its key. -/
def mutated (scopeId taskId : String) (current : Option OrganizationMemoryRecord)
    (mutation : MemoryMutation) : Except MemoryError OrganizationMemoryRecord :=
  let version :=
    match current with
    | none => 1
    | some current => current.version + 1
  match mutation, current with
  | .delete _, none => .error .scopeViolation
  | .delete memoryId, some current =>
    .ok
      { current with
        version := version
        status := .tombstone
        contentHash := contentHash (tombstoneText memoryId version) }
  | .upsert memoryId field safeValue validFrom expiresAt, _ =>
    if current.any fun current => current.field ≠ field then .error .scopeViolation
    else if version > 1000000 then .error .valueError
    else
      .ok
        { memoryId := memoryId
          scopeId := scopeId
          ownerTaskId := taskId
          field := field
          safeValue := safeValue
          version := version
          status := .active
          validFrom := validFrom
          expiresAt := expiresAt
          contentHash := contentHash safeValue }

/-- `mutate`. -/
def mutate (actorScopeId scopeId taskId : String) (mutation : MemoryMutation)
    (store : OrganizationMemoryStore) : Except MemoryError OrganizationMemoryStore :=
  if actorScopeId ≠ scopeId then .error .scopeViolation
  else
    let current := store.get scopeId mutation.memoryId
    if current.any fun current => current.ownerTaskId ≠ taskId then .error .scopeViolation
    else (mutated scopeId taskId current mutation).map store.put

/-- The order in which `read` returns the records. -/
def readBefore (a b : OrganizationMemoryRecord) : Bool :=
  let key (r : OrganizationMemoryRecord) := [utf8 r.field.value, utf8 r.memoryId]
  if key a ≠ key b then keyLe (key a) (key b)
  else if a.version ≠ b.version then decide (b.version < a.version)
  else keyLe [utf8 a.contentHash.hex] [utf8 b.contentHash.hex]

/-- A record that is valid at a time. -/
def current (scopeId : String) (asOf : UtcTime) (record : OrganizationMemoryRecord) : Bool :=
  decide (record.scopeId = scopeId ∧ record.status = .active ∧ record.validFrom ≤ asOf) &&
    record.expiresAt.all fun expiresAt => decide (asOf < expiresAt)

/-- `read`. -/
def read (actorScopeId scopeId : String) (asOf : UtcTime) (store : OrganizationMemoryStore) :
    Except MemoryError (List OrganizationMemoryRecord) :=
  if actorScopeId ≠ scopeId then .error .scopeViolation
  else
    .ok (((store.filter (current scopeId asOf)).insertionSort fun a b => readBefore a b).take 6)

end OrganizationMemoryStore

end FlowPilot.Planning.Context
