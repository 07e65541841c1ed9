import FlowPilot.Planning.Ledger
import FlowPilot.Store.Status

/-!
# Context schemas

The models of `context_schemas.py`: what a context is assembled from, its items and the assembled
context.
-/

namespace FlowPilot.Planning.Context

/-! ## Texts and times -/

/-- `[a-z0-9_.:-]`. -/
def safeChar (b : Nat) : Bool :=
  isLower b || isDigit b || Nat.beq b 95 || Nat.beq b 46 || Nat.beq b 58 || Nat.beq b 45

/-- `SafeId`. -/
def isSafeId (s : String) : Bool := matchesPattern isLower safeChar 1 79 s

/-- `SafeValue`. -/
def isSafeValue (s : String) : Bool :=
  matchesPattern (fun b => isLower b || isDigit b) safeChar 0 119 s

/-- The order of tuples of texts. -/
def keyLe : List (List Nat) → List (List Nat) → Bool
  | [], _ => true
  | _ :: _, [] => false
  | x :: xs, y :: ys => if x = y then keyLe xs ys else textLe x y

/-- Microseconds since `datetime.min`, in UTC. -/
abbrev UtcTime := Nat

/-- A time without its offset.  The calendar repeats every four hundred years, so the year is found
two thousand years later, counted from 1970. -/
def clockText (t : UtcTime) : String :=
  let micro := t % 1000000
  let s := t / 1000000
  let (year, month, day) := civilDate (s / 86400 + 11323)
  padded 4 (year - 2000) ++ "-" ++ padded 2 month ++ "-" ++ padded 2 day ++ "T"
    ++ padded 2 (s / 3600 % 24) ++ ":" ++ padded 2 (s / 60 % 60) ++ ":" ++ padded 2 (s % 60)
    ++ (if micro = 0 then "" else "." ++ padded 6 micro)

/-- `isoformat()`. -/
def utcIsoformat (t : UtcTime) : String := clockText t ++ "+00:00"

/-- `datetime(2026, 1, 1, tzinfo=UTC)`. -/
def year2026 : UtcTime := 739616 * 86400000000

example : utcIsoformat year2026 = "2026-01-01T00:00:00+00:00" := by decide +kernel

example : utcIsoformat 0 = "0001-01-01T00:00:00+00:00" := by decide +kernel

/-- `_jsonable` of a time. -/
def jsonTime (t : UtcTime) : Json := .str (utcIsoformat t)

/-- The time in `model_dump(mode="json")`. -/
def dumpTime (t : UtcTime) : Json := .str (clockText t ++ "Z")

/-! ## Enumerations -/

inductive ContextLayer where
  | taskFacts | browserWorking | shortTerm | orgMemory | enterpriseKnowledge
  deriving DecidableEq, Repr

def ContextLayer.value : ContextLayer → String
  | .taskFacts => "task_facts" | .browserWorking => "browser_working"
  | .shortTerm => "short_term" | .orgMemory => "org_memory"
  | .enterpriseKnowledge => "enterprise_knowledge"

/-- The source that `validate_provenance_and_hash` expects of a layer. -/
def ContextLayer.source : ContextLayer → String
  | .taskFacts => "sandbox_database" | .browserWorking => "browser_worker"
  | .shortTerm => "task_session" | .orgMemory => "organization_memory"
  | .enterpriseKnowledge => "enterprise_catalog"

/-- The trust that it expects. -/
def ContextLayer.trust : ContextLayer → String
  | .taskFacts => "authoritative" | .browserWorking => "runtime_observed"
  | .shortTerm => "task_supplied" | .orgMemory => "organization_curated"
  | .enterpriseKnowledge => "enterprise_curated"

inductive TaskPhase where
  | planning | executing | recovering | verifying
  deriving DecidableEq, Repr

def TaskPhase.value : TaskPhase → String
  | .planning => "planning" | .executing => "executing" | .recovering => "recovering"
  | .verifying => "verifying"

inductive FactCategory where
  | taskProcess | employeeState | ticketState | accountState | assetState | mailboxState
  deriving DecidableEq, Repr

def FactCategory.value : FactCategory → String
  | .taskProcess => "task_process" | .employeeState => "employee_state"
  | .ticketState => "ticket_state" | .accountState => "account_state"
  | .assetState => "asset_state" | .mailboxState => "mailbox_state"

inductive BrowserCategory where
  | currentPage | recentAction | localFailure | pendingStep
  deriving DecidableEq, Repr

def BrowserCategory.value : BrowserCategory → String
  | .currentPage => "current_page" | .recentAction => "recent_action"
  | .localFailure => "local_failure" | .pendingStep => "pending_step"

inductive SummaryEventKind where
  | unresolvedIssue | recentAction | failureReason | pendingStep | userSupplement
  deriving DecidableEq, Repr

def SummaryEventKind.value : SummaryEventKind → String
  | .unresolvedIssue => "unresolved_issue" | .recentAction => "recent_action"
  | .failureReason => "failure_reason" | .pendingStep => "pending_step"
  | .userSupplement => "user_supplement"

inductive MemoryField where
  | department | role | location | devicePreference | approvalChain
  deriving DecidableEq, Repr

def MemoryField.value : MemoryField → String
  | .department => "department" | .role => "role" | .location => "location"
  | .devicePreference => "device_preference" | .approvalChain => "approval_chain"

inductive KnowledgeCategory where
  | joinerPolicy | moverPolicy | leaverPolicy | permissionMatrix | deviceStandard
  | operatingManual
  deriving DecidableEq, Repr

def KnowledgeCategory.value : KnowledgeCategory → String
  | .joinerPolicy => "joiner_policy" | .moverPolicy => "mover_policy"
  | .leaverPolicy => "leaver_policy" | .permissionMatrix => "permission_matrix"
  | .deviceStandard => "device_standard" | .operatingManual => "operating_manual"

inductive ContextCategory where
  | fact (category : FactCategory)
  | browser (category : BrowserCategory)
  | summary (kind : SummaryEventKind)
  | memory (field : MemoryField)
  | knowledge (category : KnowledgeCategory)
  deriving DecidableEq, Repr

def ContextCategory.value : ContextCategory → String
  | .fact c => c.value
  | .browser c => c.value
  | .summary k => k.value
  | .memory f => f.value
  | .knowledge c => c.value

inductive AblationProfile where
  | fullFiveLayer | taskFactsOnly | noShortTerm | noEnterpriseRetrieval | noOrganizationMemory
  deriving DecidableEq, Repr

def AblationProfile.value : AblationProfile → String
  | .fullFiveLayer => "full_five_layer" | .taskFactsOnly => "task_facts_only"
  | .noShortTerm => "no_short_term" | .noEnterpriseRetrieval => "no_enterprise_retrieval"
  | .noOrganizationMemory => "no_organization_memory"

/-! ## Requests -/

/-- `TaskFactInput`; of all inputs, the owner is checked by the request. -/
structure TaskFactInput where
  itemId : String
  taskId : String
  scopeId : String
  category : FactCategory
  safeValue : String
  snapshotVersion : Nat
  deriving DecidableEq

structure BrowserWorkingInput where
  itemId : String
  taskId : String
  scopeId : String
  category : BrowserCategory
  safeValue : String
  ordinal : Nat
  observedAt : UtcTime
  expiresAt : UtcTime

structure ShortTermEvent where
  eventId : String
  taskId : String
  scopeId : String
  kind : SummaryEventKind
  safeValue : String
  sourceHash : Digest
  ordinal : Nat
  deriving DecidableEq

/-- `MemoryMutation`, whose validator gives each action its own fields. -/
inductive MemoryMutation where
  | upsert (memoryId : String) (field : MemoryField) (safeValue : String) (validFrom : UtcTime)
      (expiresAt : Option UtcTime)
  | delete (memoryId : String)
  deriving DecidableEq

def MemoryMutation.memoryId : MemoryMutation → String
  | .upsert memoryId _ _ _ _ => memoryId
  | .delete memoryId => memoryId

def MemoryMutation.isUpsert : MemoryMutation → Bool
  | .upsert _ _ _ _ _ => true
  | .delete _ => false

/-- `ContextAssembleRequest`. -/
structure ContextAssembleRequest where
  runId : String
  taskId : String
  scopeId : String
  actorScopeId : String
  process : Process
  phase : TaskPhase
  asOf : UtcTime
  databaseSnapshotHash : Digest
  taskFacts : List TaskFactInput
  browserWorking : List BrowserWorkingInput
  shortTermEvents : List ShortTermEvent
  memoryMutations : List MemoryMutation
  ablation : AblationProfile
  budget : TotalBudget
  taskFacts_length : 1 ≤ taskFacts.length ∧ taskFacts.length ≤ 8
  browserWorking_length : browserWorking.length ≤ 12
  shortTermEvents_length : shortTermEvents.length ≤ 12
  memoryMutations_length : memoryMutations.length ≤ 12
  scope : actorScopeId = scopeId
  owned : (∀ fact ∈ taskFacts, fact.taskId = taskId ∧ fact.scopeId = scopeId) ∧
    (∀ entry ∈ browserWorking, entry.taskId = taskId ∧ entry.scopeId = scopeId) ∧
    ∀ event ∈ shortTermEvents, event.taskId = taskId ∧ event.scopeId = scopeId

/-! ## Items -/

section

variable [Sha256]

/-- `content_hash`. -/
def contentHash (value : String) : Digest := Sha256.sha256 (utf8 value)

/-- What `_item` is called with: an item without its hash and its sizes. -/
structure Draft where
  layer : ContextLayer
  itemId : String
  category : ContextCategory
  safeValue : String
  sourceId : String
  version : Nat
  validFrom : UtcTime
  expiresAt : Option UtcTime
  deriving DecidableEq

/-- The fields of an item that is not measured yet, with the times as `time` prints them. -/
def Draft.fields (time : UtcTime → Json) (d : Draft) : List (String × Json) :=
  [("layer", .str d.layer.value), ("item_id", .str d.itemId),
    ("category", .str d.category.value), ("safe_value", .str d.safeValue),
    ("source_id", .str d.sourceId), ("source", .str d.layer.source),
    ("trust", .str d.layer.trust), ("version", .num d.version), ("valid_from", time d.validFrom),
    ("expires_at", .ofOption time d.expiresAt), ("content_hash", .digest (contentHash d.safeValue))]

/-- `len(canonical_json_bytes(projection))`. -/
def Draft.bytes (d : Draft) : Nat := canonicalLength (.obj (d.fields jsonTime))

/-- What the schema of an item asks of it. -/
def Draft.fits (d : Draft) : Bool :=
  isSafeId d.itemId && isSafeValue d.safeValue && isSafeId d.sourceId &&
    decide (1 ≤ d.version ∧ d.version ≤ 1000000 ∧ 1 ≤ d.bytes ∧ d.bytes ≤ 4096 ∧
      1 ≤ (d.bytes + 3) / 4 ∧ (d.bytes + 3) / 4 ≤ 1024)

/-- `ContextItem`: its source and trust are those of its layer, its hash and its sizes are computed
from the rest. -/
structure ContextItem extends Draft where
  ok : toDraft.fits = true
  deriving DecidableEq

namespace ContextItem

def contentHash (item : ContextItem) : Digest := Context.contentHash item.safeValue

def canonicalBytes (item : ContextItem) : Nat := item.bytes

def estimatedTokens (item : ContextItem) : Nat := (item.bytes + 3) / 4

/-- `model_dump(mode="json")`. -/
def modelDump (item : ContextItem) : Json :=
  .obj (item.fields dumpTime ++
    [("canonical_bytes", .num item.canonicalBytes),
      ("estimated_tokens", .num item.estimatedTokens)])

end ContextItem

/-! ## The assembled context -/

structure LayerCounts where
  taskFacts : Nat
  browserWorking : Nat
  shortTerm : Nat
  orgMemory : Nat
  enterpriseKnowledge : Nat
  deriving DecidableEq

def LayerCounts.valid (c : LayerCounts) : Bool :=
  decide (c.taskFacts ≤ 8 ∧ c.browserWorking ≤ 6 ∧ c.shortTerm ≤ 8 ∧ c.orgMemory ≤ 6 ∧
    c.enterpriseKnowledge ≤ 6)

def LayerCounts.modelDump (c : LayerCounts) : Json :=
  .obj [("task_facts", .num c.taskFacts), ("browser_working", .num c.browserWorking),
    ("short_term", .num c.shortTerm), ("org_memory", .num c.orgMemory),
    ("enterprise_knowledge", .num c.enterpriseKnowledge)]

structure ContextBudgetSnapshot where
  itemCount : Nat
  canonicalBytes : Nat
  estimatedTokens : Nat
  deriving DecidableEq

def ContextBudgetSnapshot.valid (b : ContextBudgetSnapshot) : Bool :=
  decide (1 ≤ b.itemCount ∧ b.itemCount ≤ 32 ∧ 1 ≤ b.canonicalBytes ∧ b.canonicalBytes ≤ 16384 ∧
    1 ≤ b.estimatedTokens ∧ b.estimatedTokens ≤ 4096)

def ContextBudgetSnapshot.modelDump (b : ContextBudgetSnapshot) : Json :=
  .obj [("item_count", .num b.itemCount), ("canonical_bytes", .num b.canonicalBytes),
    ("estimated_tokens", .num b.estimatedTokens)]

structure AssembledContext where
  runId : String
  taskId : String
  scopeId : String
  process : Process
  phase : TaskPhase
  ablation : AblationProfile
  asOf : UtcTime
  databaseSnapshotHash : Digest
  layerCounts : LayerCounts
  budget : ContextBudgetSnapshot
  summaryHash : Option Digest
  retrievalCatalogChecksum : Option Digest
  items : List ContextItem

namespace AssembledContext

/-- `layer_index`. -/
def layerIndex : ContextLayer → Nat
  | .taskFacts => 0
  | .browserWorking => 1
  | .shortTerm => 2
  | .orgMemory => 3
  | .enterpriseKnowledge => 4

/-- `sum(item.layer == layer for item in items)`. -/
def countOf (items : List ContextItem) (layer : ContextLayer) : Nat :=
  items.countP fun item => item.layer = layer

def bytesOf (items : List ContextItem) : Nat := (items.map ContextItem.canonicalBytes).sum

def tokensOf (items : List ContextItem) : Nat := (items.map ContextItem.estimatedTokens).sum

def countsOf (items : List ContextItem) : LayerCounts where
  taskFacts := countOf items .taskFacts
  browserWorking := countOf items .browserWorking
  shortTerm := countOf items .shortTerm
  orgMemory := countOf items .orgMemory
  enterpriseKnowledge := countOf items .enterpriseKnowledge

/-- The field constraints and `validate_counts_order_and_hash`, of a context whose hash is still
zero. -/
def valid (c : AssembledContext) : Bool :=
  c.layerCounts.valid && c.budget.valid &&
    decide (1 ≤ c.items.length ∧ c.items.length ≤ 32) &&
    decide ((c.items.map fun item => layerIndex item.layer).Pairwise (· ≤ ·)) &&
    decide (c.layerCounts = countsOf c.items) &&
    decide (c.budget = ⟨c.items.length, bytesOf c.items, tokensOf c.items⟩)

/-- `model_dump(mode="json", exclude={"context_hash"})`. -/
def modelDump (c : AssembledContext) : Json :=
  .obj [("schema_version", .str "w9-assembled-context/1.0"), ("run_id", .str c.runId),
    ("task_id", .str c.taskId), ("scope_id", .str c.scopeId),
    ("process", .str c.process.value), ("phase", .str c.phase.value),
    ("ablation", .str c.ablation.value), ("as_of", dumpTime c.asOf),
    ("database_snapshot_hash", .digest c.databaseSnapshotHash),
    ("layer_counts", c.layerCounts.modelDump), ("budget", c.budget.modelDump),
    ("summary_hash", .ofOption .digest c.summaryHash),
    ("retrieval_catalog_checksum", .ofOption .digest c.retrievalCatalogChecksum),
    ("items", .arr (c.items.map ContextItem.modelDump))]

/-- `context_hash`. -/
def contextHash (c : AssembledContext) : Digest := stableHash c.modelDump

end AssembledContext

structure ContextAssembleResult where
  context : AssembledContext
  contextHash : Digest
  usage : TotalUsage

end

end FlowPilot.Planning.Context
