import FlowPilot.Planning.Layers

/-!
# The context assembler

`ContextAssembler` of `context.py`.  Everything up to the first mutation works on the ledger of the
call and on a clone of the memory; the mutations go to the shared store one by one.
-/

open FlowPilot.Lib

namespace FlowPilot.Planning.Context

variable [Sha256]

inductive ContextError where
  | budgetExceeded (reason : BudgetReason)
  | scopeViolation
  | valueError
  deriving DecidableEq

def MemoryError.raised : MemoryError → ContextError
  | .scopeViolation => .scopeViolation
  | .valueError => .valueError

/-- Computations with the ledger of the call. -/
abbrev PrepareM := EStateM ContextError TotalBudgetLedger

def charging {α : Type} (x : LedgerM α) : PrepareM α :=
  zoom id (fun _ l => l) ContextError.budgetExceeded x

/-! ## Layers -/

/-- `LAYER_ORDER`. -/
def layerOrder : List ContextLayer :=
  [.taskFacts, .browserWorking, .shortTerm, .orgMemory, .enterpriseKnowledge]

structure LayerCap where
  items : Nat
  bytes : Nat
  tokens : Nat

/-- `LAYER_CAPS`. -/
def layerCaps : ContextLayer → LayerCap
  | .taskFacts => ⟨8, 4096, 1024⟩
  | .browserWorking => ⟨6, 3072, 768⟩
  | .shortTerm => ⟨8, 4096, 1024⟩
  | .orgMemory => ⟨6, 3072, 768⟩
  | .enterpriseKnowledge => ⟨6, 4096, 1024⟩

/-- `PROFILE_LAYERS`. -/
def profileLayers : AblationProfile → List ContextLayer
  | .fullFiveLayer => layerOrder
  | .taskFactsOnly => [.taskFacts]
  | .noShortTerm => [.taskFacts, .browserWorking, .orgMemory, .enterpriseKnowledge]
  | .noEnterpriseRetrieval => [.taskFacts, .browserWorking, .shortTerm, .orgMemory]
  | .noOrganizationMemory => [.taskFacts, .browserWorking, .shortTerm, .enterpriseKnowledge]

/-- `_item`. -/
def measured (d : Draft) : PrepareM ContextItem :=
  if h : d.fits = true then pure ⟨d, h⟩ else throw .valueError

def measuredAll : List Draft → PrepareM (List ContextItem)
  | [] => pure []
  | d :: rest => do
    let item ← measured d
    let items ← measuredAll rest
    pure (item :: items)

variable (request : ContextAssembleRequest)

/-- The order of the task facts. -/
def TaskFactInput.before (a b : TaskFactInput) : Bool :=
  keyLe [utf8 a.category.value, utf8 a.itemId, utf8 a.safeValue]
    [utf8 b.category.value, utf8 b.itemId, utf8 b.safeValue]

def sortedFacts : List TaskFactInput := request.taskFacts.insertionSort fun a b => a.before b

def factDraft (fact : TaskFactInput) : Draft where
  layer := .taskFacts
  itemId := fact.itemId
  category := .fact fact.category
  safeValue := fact.safeValue
  sourceId := "database.snapshot"
  version := fact.snapshotVersion
  validFrom := request.asOf
  expiresAt := none

def BrowserWorkingInput.before (a b : BrowserWorkingInput) : Bool :=
  if a.ordinal ≠ b.ordinal then decide (b.ordinal < a.ordinal)
  else keyLe [utf8 a.category.value, utf8 a.itemId] [utf8 b.category.value, utf8 b.itemId]

/-- The entries that are not expired, the latest first. -/
def currentBrowser : List BrowserWorkingInput :=
  (request.browserWorking.filter fun entry =>
    decide (entry.observedAt ≤ request.asOf ∧ request.asOf < entry.expiresAt)).insertionSort
      fun a b => a.before b

/-- `_browser_item`. -/
def browserDraft (entry : BrowserWorkingInput) : Draft where
  layer := .browserWorking
  itemId := entry.itemId
  category := .browser entry.category
  safeValue := entry.safeValue
  sourceId := "browser.observation"
  version := entry.ordinal
  validFrom := entry.observedAt
  expiresAt := some entry.expiresAt

def summaryDraft (entry : SummaryEntry) : Draft where
  layer := .shortTerm
  itemId := "summary." ++ entry.kind.value ++ "." ++ toString entry.ordinal
  category := .summary entry.kind
  safeValue := entry.safeValue
  sourceId := "summary.current_task"
  version := 1
  validFrom := request.asOf
  expiresAt := none

def memoryDraft (record : OrganizationMemoryRecord) : Draft where
  layer := .orgMemory
  itemId := record.memoryId
  category := .memory record.field
  safeValue := record.safeValue
  sourceId := record.memoryId
  version := record.version
  validFrom := record.validFrom
  expiresAt := record.expiresAt

def knowledgeDraft (record : EnterpriseKnowledgeRecord) : Draft where
  layer := .enterpriseKnowledge
  itemId := record.knowledgeId
  category := .knowledge record.category
  safeValue := record.safeValue
  sourceId := record.sourceId
  version := record.version
  validFrom := record.validFrom
  expiresAt := record.expiresAt

/-- `_retrieval_category`. -/
def retrievalCategory : KnowledgeCategory :=
  match request.phase with
  | .planning =>
    match request.process with
    | .joiner => .joinerPolicy
    | .mover => .moverPolicy
    | .leaver => .leaverPolicy
  | .verifying => .permissionMatrix
  | .recovering => .operatingManual
  | .executing => .deviceStandard

/-! ## Gathering -/

def browserLayer : PrepareM (List ContextItem) :=
  measuredAll ((currentBrowser request).map browserDraft)

def shortTermLayer : PrepareM (Option Digest × List ContextItem) := do
  let summary := summarize request.taskId request.scopeId request.shortTermEvents
  charging (TotalBudgetLedger.chargeSummary summary.inputCount summary.emittedCount
    summary.droppedCount)
  let items ← measuredAll (summary.entries.map (summaryDraft request))
  pure (some summary.summaryHash, items)

/-- One call of `mutate` for the request. -/
def mutateFor (mutation : MemoryMutation) (store : OrganizationMemoryStore) :
    Except MemoryError OrganizationMemoryStore :=
  store.mutate request.actorScopeId request.scopeId request.taskId mutation

/-- The mutations on the clone. -/
def previewed : List MemoryMutation → OrganizationMemoryStore → PrepareM OrganizationMemoryStore
  | [], preview => pure preview
  | mutation :: rest, preview =>
    match mutateFor request mutation preview with
    | .ok preview => previewed rest preview
    | .error .scopeViolation => do
      charging (TotalBudgetLedger.chargeMemory 0 0 0 1)
      throw .scopeViolation
    | .error .valueError => throw .valueError

def upserts (mutations : List MemoryMutation) : Nat := mutations.countP MemoryMutation.isUpsert

def deletes (mutations : List MemoryMutation) : Nat :=
  mutations.countP fun mutation => !mutation.isUpsert

/-- The layer of the memory, from a clone of the store. -/
def memoryLayer (clone : OrganizationMemoryStore) : PrepareM (List ContextItem) := do
  if upserts request.memoryMutations > request.budget.maxMemoryWrites ∨
      deletes request.memoryMutations > request.budget.maxMemoryDeletes then
    throw (.budgetExceeded .memory)
  else do
    let preview ← previewed request request.memoryMutations clone
    match preview.read request.actorScopeId request.scopeId request.asOf with
    | .error e => throw e.raised
    | .ok records => do
      charging (TotalBudgetLedger.chargeMemory records.length 0 0 0)
      measuredAll (records.map memoryDraft)

def knowledgeLayer : PrepareM (Option Digest × List ContextItem) := do
  let retrieval := retrieve (retrievalCategory request) request.scopeId request.asOf
  charging (TotalBudgetLedger.chargeRetrieval retrieval.candidateCount retrieval.selected.length)
  let items ← measuredAll (retrieval.selected.map knowledgeDraft)
  pure (some retrieval.catalogChecksum, items)

/-- What is there when the items are selected. -/
structure Gathered where
  layers : ContextLayer → List ContextItem
  summaryHash : Option Digest
  catalogChecksum : Option Digest
  pending : List MemoryMutation

/-- A part that only an enabled layer has. -/
def whenEnabled {α : Type} (layer : ContextLayer) (x : PrepareM α) (otherwise : α) : PrepareM α :=
  if layer ∈ profileLayers request.ablation then x else pure otherwise

/-- `assemble`, up to the selection. -/
def gather (clone : OrganizationMemoryStore) : PrepareM Gathered := do
  charging TotalBudgetLedger.chargeContextAssembly
  let taskFacts ← measuredAll ((sortedFacts request).map (factDraft request))
  let browserWorking ← whenEnabled request .browserWorking (browserLayer request) []
  let (summaryHash, shortTerm) ←
    whenEnabled request .shortTerm (shortTermLayer request) (none, [])
  let orgMemory ← whenEnabled request .orgMemory (memoryLayer request clone) []
  let (catalogChecksum, enterpriseKnowledge) ←
    whenEnabled request .enterpriseKnowledge (knowledgeLayer request) (none, [])
  pure
    { layers := fun layer =>
        match layer with
        | .taskFacts => taskFacts
        | .browserWorking => browserWorking
        | .shortTerm => shortTerm
        | .orgMemory => orgMemory
        | .enterpriseKnowledge => enterpriseKnowledge
      summaryHash := summaryHash
      catalogChecksum := catalogChecksum
      pending :=
        if .orgMemory ∈ profileLayers request.ablation then request.memoryMutations else [] }

/-! ## Selection -/

/-- The variables of `_budget_and_deduplicate`. -/
structure Selection where
  selected : List ContextItem := []
  seenHashes : List Digest := []
  totalBytes : Nat := 0
  totalTokens : Nat := 0
  layerItems : Nat := 0
  layerBytes : Nat := 0
  layerTokens : Nat := 0

/-- `_unique`. -/
def unique (items : List ContextItem) : List ContextItem :=
  firstByKey (fun item => (item.itemId, item.contentHash)) [] items

/-- The body of the inner loop. -/
def offer (cap : LayerCap) (s : Selection) (item : ContextItem) :
    Except ContextError Selection :=
  if item.contentHash ∈ s.seenHashes then .ok s
  else if item.canonicalBytes > cap.bytes ∨ item.estimatedTokens > cap.tokens then
    .error .valueError
  else if s.layerItems ≥ cap.items ∨ s.layerBytes + item.canonicalBytes > cap.bytes ∨
      s.layerTokens + item.estimatedTokens > cap.tokens then
    .ok s
  else if s.selected.length ≥ 32 ∨ s.totalBytes + item.canonicalBytes > 16384 ∨
      s.totalTokens + item.estimatedTokens > 4096 then
    .ok s
  else
    .ok
      { selected := s.selected ++ [item]
        seenHashes := item.contentHash :: s.seenHashes
        totalBytes := s.totalBytes + item.canonicalBytes
        totalTokens := s.totalTokens + item.estimatedTokens
        layerItems := s.layerItems + 1
        layerBytes := s.layerBytes + item.canonicalBytes
        layerTokens := s.layerTokens + item.estimatedTokens }

/-- The body of the outer loop. -/
def offerLayer (layers : ContextLayer → List ContextItem) (enabled : List ContextLayer)
    (s : Selection) (layer : ContextLayer) : Except ContextError Selection :=
  if layer ∉ enabled then .ok s
  else
    (unique (layers layer)).foldlM (offer (layerCaps layer))
      { s with layerItems := 0, layerBytes := 0, layerTokens := 0 }

/-- `_budget_and_deduplicate`. -/
def budgetAndDeduplicate (layers : ContextLayer → List ContextItem)
    (enabled : List ContextLayer) : Except ContextError (List ContextItem) :=
  (layerOrder.foldlM (offerLayer layers enabled) {}).map Selection.selected

/-! ## Assembly -/

def raiseOr {α : Type} : Except ContextError α → PrepareM α
  | .ok a => pure a
  | .error e => throw e

/-- The check that the first item is a task fact. -/
def startsWithFact (selected : List ContextItem) : Bool :=
  match selected with
  | [] => false
  | item :: _ => decide (item.layer = .taskFacts)

def chargeItems : List ContextItem → PrepareM Unit
  | [] => pure ()
  | item :: rest => do
    charging (TotalBudgetLedger.chargeContextItem item.canonicalBytes item.estimatedTokens)
    chargeItems rest

/-- `assemble`, up to the first mutation of the shared store. -/
def prepare (clone : OrganizationMemoryStore) : PrepareM (Gathered × List ContextItem) := do
  let gathered ← gather request clone
  let selected ← raiseOr
    (budgetAndDeduplicate gathered.layers (profileLayers request.ablation))
  if startsWithFact selected = false then throw .valueError
  else do
    chargeItems selected
    if gathered.pending ≠ [] then
      charging (TotalBudgetLedger.chargeMemory 0 (upserts gathered.pending)
        (deletes gathered.pending) 0)
    pure (gathered, selected)

/-- The context that is validated. -/
def contextOf (gathered : Gathered) (selected : List ContextItem) : AssembledContext where
  runId := request.runId
  taskId := request.taskId
  scopeId := request.scopeId
  process := request.process
  phase := request.phase
  ablation := request.ablation
  asOf := request.asOf
  databaseSnapshotHash := request.databaseSnapshotHash
  layerCounts := AssembledContext.countsOf selected
  budget := ⟨selected.length, AssembledContext.bytesOf selected, AssembledContext.tokensOf selected⟩
  summaryHash := gathered.summaryHash
  retrievalCatalogChecksum := gathered.catalogChecksum
  items := selected

/-- `assemble`, after the last mutation. -/
def conclude (gathered : Gathered) (selected : List ContextItem) :
    PrepareM ContextAssembleResult := do
  let context := contextOf request gathered selected
  if context.valid = false then throw .valueError
  else do
    let usage ← charging TotalBudgetLedger.snapshot
    pure ⟨context, context.contextHash, usage⟩

/-- The ledger of the call and the shared store. -/
structure AssemblerState where
  ledger : TotalBudgetLedger
  memory : OrganizationMemoryStore

abbrev AssembleM := EStateM ContextError AssemblerState

def onLedger {α : Type} (x : PrepareM α) : AssembleM α :=
  zoom AssemblerState.ledger (fun s l => { s with ledger := l }) id x

/-- The mutations on the shared store. -/
def replay : List MemoryMutation → AssembleM Unit
  | [] => pure ()
  | mutation :: rest => do
    let s ← get
    match mutateFor request mutation s.memory with
    | .error e => throw e.raised
    | .ok memory => do
      set { s with memory := memory }
      replay rest

/-- `assemble`. -/
def assemble : AssembleM ContextAssembleResult := do
  let s ← get
  let (gathered, selected) ← onLedger (prepare request s.memory)
  replay request gathered.pending
  onLedger (conclude request gathered selected)

end FlowPilot.Planning.Context
