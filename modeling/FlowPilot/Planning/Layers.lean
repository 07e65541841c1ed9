import FlowPilot.Planning.Memory

/-!
# Summary and retrieval

What the short-term and the enterprise layer are made from: `DeterministicShortTermSummarizer` of
`summary.py` and `DeterministicEnterpriseRetriever` of `retrieval.py` on its fixed catalog.
-/

namespace FlowPilot.Planning.Context

variable [Sha256]

/-! ## Summary -/

structure SummaryEntry where
  kind : SummaryEventKind
  safeValue : String
  sourceHash : Digest
  ordinal : Nat
  deriving DecidableEq

def SummaryEntry.modelDump (e : SummaryEntry) : Json :=
  .obj [("kind", .str e.kind.value), ("safe_value", .str e.safeValue),
    ("source_hash", .digest e.sourceHash), ("ordinal", .num e.ordinal)]

def entriesJson (entries : List SummaryEntry) : Json :=
  .obj [("entries", .arr (entries.map SummaryEntry.modelDump))]

structure ShortTermSummary where
  taskId : String
  scopeId : String
  entries : List SummaryEntry
  sourceHashes : List Digest
  inputCount : Nat
  deduplicatedCount : Nat
  emittedCount : Nat
  droppedCount : Nat
  canonicalBytes : Nat
  estimatedTokens : Nat

/-- The fields that `summary_hash` covers. -/
def ShortTermSummary.fields (s : ShortTermSummary) : Json :=
  .obj [("schema_version", .str "w9-short-term-summary/1.0"), ("task_id", .str s.taskId),
    ("scope_id", .str s.scopeId), ("entries", .arr (s.entries.map SummaryEntry.modelDump)),
    ("source_hashes", .arr (s.sourceHashes.map .digest)), ("input_count", .num s.inputCount),
    ("deduplicated_count", .num s.deduplicatedCount), ("emitted_count", .num s.emittedCount),
    ("dropped_count", .num s.droppedCount), ("canonical_bytes", .num s.canonicalBytes),
    ("estimated_tokens", .num s.estimatedTokens)]

def ShortTermSummary.summaryHash (s : ShortTermSummary) : Digest := stableHash s.fields

/-- `KIND_PRIORITY`. -/
def kindPriority : SummaryEventKind → Nat
  | .unresolvedIssue => 0
  | .recentAction => 1
  | .failureReason => 2
  | .pendingStep => 3
  | .userSupplement => 4

/-- `REQUIRED_KINDS`. -/
def requiredKinds : List SummaryEventKind :=
  [.unresolvedIssue, .recentAction, .failureReason, .pendingStep]

/-- The order of the events. -/
def ShortTermEvent.before (a b : ShortTermEvent) : Bool :=
  if kindPriority a.kind ≠ kindPriority b.kind then
    decide (kindPriority a.kind < kindPriority b.kind)
  else if a.ordinal ≠ b.ordinal then decide (b.ordinal < a.ordinal)
  else
    keyLe [utf8 a.sourceHash.hex, utf8 a.eventId] [utf8 b.sourceHash.hex, utf8 b.eventId]

/-- The first of the elements that share a key. -/
def firstByKey {α κ : Type} [DecidableEq κ] (key : α → κ) : List κ → List α → List α
  | _, [] => []
  | seen, x :: rest =>
    if key x ∈ seen then firstByKey key seen rest else x :: firstByKey key (key x :: seen) rest

/-- The loop over the candidates: at most eight entries, and none that makes them too long. -/
def chooseEntries : List SummaryEntry → List ShortTermEvent → List SummaryEntry
  | entries, [] => entries
  | entries, event :: rest =>
    if entries.length ≥ 8 then entries
    else
      let candidate : SummaryEntry := ⟨event.kind, event.safeValue, event.sourceHash, event.ordinal⟩
      let byteCount := canonicalLength (entriesJson (entries ++ [candidate]))
      if byteCount ≤ 4096 ∧ (byteCount + 3) / 4 ≤ 1024 then
        chooseEntries (entries ++ [candidate]) rest
      else chooseEntries entries rest

/-- `summarize`; the request has checked the number of the events and whose they are. -/
def summarize (taskId scopeId : String) (events : List ShortTermEvent) : ShortTermSummary :=
  let ordered := events.insertionSort fun a b => a.before b
  let unique := firstByKey (fun event => (event.kind, event.safeValue)) [] ordered
  let required := requiredKinds.filterMap fun kind => unique.find? fun event => event.kind = kind
  let selectedIds := required.map ShortTermEvent.eventId
  let candidates := required ++ unique.filter fun event => event.eventId ∉ selectedIds
  let entries := chooseEntries [] candidates
  let payload := canonicalLength (entriesJson entries)
  { taskId := taskId
    scopeId := scopeId
    entries := entries
    sourceHashes := firstByKey id [] (ordered.map ShortTermEvent.sourceHash)
    inputCount := events.length
    deduplicatedCount := unique.length
    emittedCount := entries.length
    droppedCount := events.length - entries.length
    canonicalBytes := payload
    estimatedTokens := (payload + 3) / 4 }

/-! ## Catalog -/

structure EnterpriseKnowledgeRecord where
  knowledgeId : String
  scopeId : String
  category : KnowledgeCategory
  safeValue : String
  keywords : List String
  sourceId : String
  version : Nat
  validFrom : UtcTime
  expiresAt : Option UtcTime

def EnterpriseKnowledgeRecord.modelDump (r : EnterpriseKnowledgeRecord) : Json :=
  .obj [("schema_version", .str "w9-enterprise-knowledge/1.0"),
    ("knowledge_id", .str r.knowledgeId), ("scope_id", .str r.scopeId),
    ("category", .str r.category.value), ("safe_value", .str r.safeValue),
    ("keywords", .arr (r.keywords.map .str)), ("source_id", .str r.sourceId),
    ("source", .str "enterprise_catalog"), ("trust", .str "enterprise_curated"),
    ("version", .num r.version), ("valid_from", dumpTime r.validFrom),
    ("expires_at", .ofOption dumpTime r.expiresAt),
    ("content_hash", .digest (contentHash r.safeValue))]

/-- `GLOBAL_SCOPE`. -/
def globalScope : String := "syn_scope_global"

/-- `datetime(2027, 1, 1, tzinfo=UTC)`. -/
def year2027 : UtcTime := 739981 * 86400000000

/-- `_record`. -/
def catalogRecord (knowledgeId : String) (category : KnowledgeCategory) (safeValue : String)
    (keywords : List String) (version : Nat) : EnterpriseKnowledgeRecord where
  knowledgeId := knowledgeId
  scopeId := globalScope
  category := category
  safeValue := safeValue
  keywords := keywords
  sourceId := "catalog." ++ category.value
  version := version
  validFrom := year2026
  expiresAt := some year2027

/-- `ENTERPRISE_CATALOG`. -/
def enterpriseCatalog : List EnterpriseKnowledgeRecord :=
  [catalogRecord "knowledge.joiner.v1" .joinerPolicy "policy.joiner.standard"
      ["joiner", "onboarding", "account"] 1,
    catalogRecord "knowledge.joiner.v2" .joinerPolicy "policy.joiner.standard"
      ["joiner", "onboarding", "account", "asset"] 2,
    catalogRecord "knowledge.mover.v1" .moverPolicy "policy.mover.standard"
      ["mover", "transfer", "department"] 1,
    catalogRecord "knowledge.mover.v2" .moverPolicy "policy.mover.standard"
      ["mover", "transfer", "department", "access"] 2,
    catalogRecord "knowledge.leaver.v1" .leaverPolicy "policy.leaver.standard"
      ["leaver", "offboarding", "revoke"] 1,
    catalogRecord "knowledge.leaver.v2" .leaverPolicy "policy.leaver.standard"
      ["leaver", "offboarding", "revoke", "release"] 2,
    catalogRecord "knowledge.permission.v1" .permissionMatrix "matrix.permission.standard"
      ["permission", "role", "access", "verify"] 1,
    catalogRecord "knowledge.device.v1" .deviceStandard "standard.device.synthetic"
      ["device", "asset", "laptop", "standard"] 1,
    catalogRecord "knowledge.manual.v1" .operatingManual "manual.operation.bounded"
      ["operation", "workflow", "recovery", "step"] 1]

/-- `QUERY_TERMS`. -/
def queryTerms : KnowledgeCategory → List String
  | .joinerPolicy => ["joiner", "onboarding", "account", "asset"]
  | .moverPolicy => ["mover", "transfer", "department", "access"]
  | .leaverPolicy => ["leaver", "offboarding", "revoke", "release"]
  | .permissionMatrix => ["permission", "role", "access", "verify"]
  | .deviceStandard => ["device", "asset", "laptop", "standard"]
  | .operatingManual => ["operation", "workflow", "recovery", "step"]

/-- `CATALOG_CHECKSUM`. -/
def catalogChecksum : Digest :=
  stableHash (.obj [("schema_version", .str "w9-enterprise-catalog/1.0"),
    ("records", .arr (enterpriseCatalog.map EnterpriseKnowledgeRecord.modelDump))])

/-! ## Retrieval -/

structure RetrievalResult where
  catalogChecksum : Digest
  candidateCount : Nat
  selected : List EnterpriseKnowledgeRecord

/-- What a record is eligible for; its source and trust are those of the catalog. -/
def eligible (category : KnowledgeCategory) (scopeId : String) (asOf : UtcTime)
    (r : EnterpriseKnowledgeRecord) : Bool :=
  decide (r.category = category ∧ r.scopeId ∈ [globalScope, scopeId] ∧ r.validFrom ≤ asOf) &&
    r.expiresAt.all fun expiresAt => decide (asOf < expiresAt)

/-- The order in front of the deduplication: the newest version of a value first. -/
def newestBefore (a b : EnterpriseKnowledgeRecord) : Bool :=
  let hash (r : EnterpriseKnowledgeRecord) := utf8 (contentHash r.safeValue).hex
  if hash a ≠ hash b then textLe (hash a) (hash b)
  else if a.version ≠ b.version then decide (b.version < a.version)
  else textLe (utf8 a.knowledgeId) (utf8 b.knowledgeId)

/-- `len(query_terms.intersection(record.keywords))`. -/
def lexicalScore (category : KnowledgeCategory) (r : EnterpriseKnowledgeRecord) : Nat :=
  ((queryTerms category).filter fun term => term ∈ r.keywords).length

def matchBefore (category : KnowledgeCategory) (a b : EnterpriseKnowledgeRecord) : Bool :=
  let hash (r : EnterpriseKnowledgeRecord) := utf8 (contentHash r.safeValue).hex
  if lexicalScore category a ≠ lexicalScore category b then
    decide (lexicalScore category b < lexicalScore category a)
  else if a.version ≠ b.version then decide (b.version < a.version)
  else keyLe [hash a, utf8 a.knowledgeId] [hash b, utf8 b.knowledgeId]

/-- `retrieve`. -/
def retrieve (category : KnowledgeCategory) (scopeId : String) (asOf : UtcTime) :
    RetrievalResult :=
  let candidates := enterpriseCatalog.filter (eligible category scopeId asOf)
  let deduplicated := firstByKey (fun r => contentHash r.safeValue) []
    (candidates.insertionSort fun a b => newestBefore a b)
  let matched := deduplicated.filter fun r => decide (0 < lexicalScore category r)
  { catalogChecksum := catalogChecksum
    candidateCount := candidates.length
    selected := (matched.insertionSort fun a b => matchBefore category a b).take 3 }

end FlowPilot.Planning.Context
