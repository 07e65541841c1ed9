import FlowPilot.Lib.Escape

/-!
# The budget ledger

`TotalBudgetLedger` of `budget.py`.  A charge reads the clock, counts and then compares; what it
has counted stays when it raises.
-/

open FlowPilot.Lib

namespace FlowPilot.Planning

/-- The values of `BudgetExceeded.reason` that the ledger has. -/
inductive BudgetReason where
  | time | planGeneration | toolMatch | toolRejection | verifier | verifierProbe | executedStep
  | blockedStep | action | modelCall | domObservation | domByte | compressedDom | inputToken
  | outputToken | cost | contextAssembly | contextItem | contextByte | contextToken | retrieval
  | summary | memory
  deriving DecidableEq, Repr

def BudgetReason.value : BudgetReason → String
  | .time => "time_budget_exhausted"
  | .planGeneration => "plan_generation_budget_exhausted"
  | .toolMatch => "tool_match_budget_exhausted"
  | .toolRejection => "tool_rejection_budget_exhausted"
  | .verifier => "verifier_budget_exhausted"
  | .verifierProbe => "verifier_probe_budget_exhausted"
  | .executedStep => "executed_step_budget_exhausted"
  | .blockedStep => "blocked_step_budget_exhausted"
  | .action => "action_budget_exhausted"
  | .modelCall => "model_call_budget_exhausted"
  | .domObservation => "dom_observation_budget_exhausted"
  | .domByte => "dom_byte_budget_exhausted"
  | .compressedDom => "compressed_dom_budget_exhausted"
  | .inputToken => "input_token_budget_exhausted"
  | .outputToken => "output_token_budget_exhausted"
  | .cost => "cost_budget_exhausted"
  | .contextAssembly => "context_assembly_budget_exhausted"
  | .contextItem => "context_item_budget_exhausted"
  | .contextByte => "context_byte_budget_exhausted"
  | .contextToken => "context_token_budget_exhausted"
  | .retrieval => "retrieval_budget_exhausted"
  | .summary => "summary_budget_exhausted"
  | .memory => "memory_budget_exhausted"

structure TotalBudget where
  maxPlanGenerations : Nat := 1
  maxToolMatches : Nat := 64
  maxToolRejections : Nat := 16
  maxVerifierCalls : Nat := 16
  maxVerifierProbes : Nat := 16
  maxExecutedSteps : Nat := 16
  maxBlockedSteps : Nat := 16
  maxSteps : Nat := 24
  maxModelCalls : Nat := 24
  maxDomObservations : Nat := 24
  maxDomObservationBytes : Nat := 262144
  maxCompressedDomBytes : Nat := 147456
  maxInputTokens : Nat := 100000
  maxOutputTokens : Nat := 20000
  maxPlanningInputTokens : Nat := 100000
  maxPlanningOutputTokens : Nat := 20000
  maxVerifierInputTokens : Nat := 100000
  maxVerifierOutputTokens : Nat := 20000
  maxCostMicrousd : Nat := 0
  maxPlanningCostMicrousd : Nat := 0
  maxVerifierCostMicrousd : Nat := 0
  maxContextAssemblies : Nat := 1
  maxContextItems : Nat := 32
  maxContextBytes : Nat := 16384
  maxContextTokens : Nat := 4096
  maxRetrievalQueries : Nat := 1
  maxRetrievalCandidates : Nat := 6
  maxRetrievalSelected : Nat := 3
  maxSummaryInputs : Nat := 12
  maxSummaryOutputs : Nat := 8
  maxSummaryDropped : Nat := 12
  maxMemoryReads : Nat := 6
  maxMemoryWrites : Nat := 6
  maxMemoryDeletes : Nat := 6
  maxMemoryRejections : Nat := 6
  maxDurationSeconds : Nat := 300

/-- `_Counters`, without those that nothing changes. -/
structure Counters where
  planGenerations : Nat := 0
  planNodes : Nat := 0
  planEdges : Nat := 0
  planDepth : Nat := 0
  planSerializedBytes : Nat := 0
  toolMatches : Nat := 0
  toolRejections : Nat := 0
  verifierCalls : Nat := 0
  verifierProbes : Nat := 0
  executedSteps : Nat := 0
  blockedSteps : Nat := 0
  workerActions : Nat := 0
  modelCalls : Nat := 0
  routeDecisions : Nat := 0
  domObservations : Nat := 0
  domObservationBytes : Nat := 0
  compressedDomBytes : Nat := 0
  inputTokens : Nat := 0
  outputTokens : Nat := 0
  planningInputTokens : Nat := 0
  planningOutputTokens : Nat := 0
  verifierInputTokens : Nat := 0
  verifierOutputTokens : Nat := 0
  costMicrousd : Nat := 0
  planningCostMicrousd : Nat := 0
  verifierCostMicrousd : Nat := 0
  contextAssemblies : Nat := 0
  contextItems : Nat := 0
  contextBytes : Nat := 0
  contextTokens : Nat := 0
  retrievalQueries : Nat := 0
  retrievalCandidates : Nat := 0
  retrievalSelected : Nat := 0
  summaryInputs : Nat := 0
  summaryOutputs : Nat := 0
  summaryDropped : Nat := 0
  memoryReads : Nat := 0
  memoryWrites : Nat := 0
  memoryDeletes : Nat := 0
  memoryRejections : Nat := 0
  deriving DecidableEq

structure TotalUsage extends Counters where
  elapsedMs : Nat

/-- The clock is what its calls return, one after the other, in microseconds. -/
structure TotalBudgetLedger where
  budget : TotalBudget
  clock : Nat → Int
  started : Int
  readings : Nat
  counters : Counters

abbrev LedgerM := EStateM BudgetReason TotalBudgetLedger

namespace TotalBudgetLedger

/-- `__init__`. -/
def init (budget : TotalBudget) (clock : Nat → Int) : TotalBudgetLedger where
  budget := budget
  clock := clock
  started := clock 0
  readings := 1
  counters := {}

/-- The next reading is too late. -/
def late (l : TotalBudgetLedger) : Bool :=
  decide (l.clock l.readings - l.started > l.budget.maxDurationSeconds * 1000000)

def tick (l : TotalBudgetLedger) : TotalBudgetLedger := { l with readings := l.readings + 1 }

def count (change : Counters → Counters) (l : TotalBudgetLedger) : TotalBudgetLedger :=
  { l with counters := change l.counters }

def checkTime : LedgerM Unit := do
  let l ← get
  set l.tick
  if l.late then throw .time

/-- The first comparison that fails raises. -/
def check (exceeded : TotalBudget → Counters → List (Bool × BudgetReason)) : LedgerM Unit := do
  let l ← get
  match (exceeded l.budget l.counters).find? (·.1) with
  | none => pure ()
  | some (_, reason) => throw reason

/-- The shape of the charges: the time, the counters, and then the limits in turn. -/
def charge (change : Counters → Counters)
    (exceeded : TotalBudget → Counters → List (Bool × BudgetReason)) : LedgerM Unit := do
  checkTime
  modify (count change)
  check exceeded

/-- `_check_model_and_tokens`. -/
def modelAndTokens (b : TotalBudget) (c : Counters) : List (Bool × BudgetReason) :=
  [(decide (c.modelCalls > b.maxModelCalls), .modelCall),
    (decide (c.inputTokens > b.maxInputTokens ∨ c.planningInputTokens > b.maxPlanningInputTokens ∨
      c.verifierInputTokens > b.maxVerifierInputTokens), .inputToken),
    (decide (c.outputTokens > b.maxOutputTokens ∨
      c.planningOutputTokens > b.maxPlanningOutputTokens ∨
      c.verifierOutputTokens > b.maxVerifierOutputTokens), .outputToken),
    (decide (c.costMicrousd > b.maxCostMicrousd ∨
      c.planningCostMicrousd > b.maxPlanningCostMicrousd ∨
      c.verifierCostMicrousd > b.maxVerifierCostMicrousd), .cost)]

def chargePlan (nodes edges depth serializedBytes : Nat) : LedgerM Unit :=
  charge
    (fun c =>
      { c with
        planGenerations := c.planGenerations + 1
        modelCalls := c.modelCalls + 1
        planNodes := nodes
        planEdges := edges
        planDepth := depth
        planSerializedBytes := serializedBytes
        planningInputTokens := c.planningInputTokens + 32
        planningOutputTokens := c.planningOutputTokens + 16
        inputTokens := c.inputTokens + 32
        outputTokens := c.outputTokens + 16 })
    fun b c =>
      (decide (c.planGenerations > b.maxPlanGenerations), .planGeneration) :: modelAndTokens b c

/-- The rejection is only counted once the match is within its limit. -/
def chargeToolMatch (rejected : Bool) : LedgerM Unit := do
  charge (fun c => { c with toolMatches := c.toolMatches + 1 })
    fun b c => [(decide (c.toolMatches > b.maxToolMatches), .toolMatch)]
  if rejected then
    modify (count fun c => { c with toolRejections := c.toolRejections + 1 })
    check fun b c => [(decide (c.toolRejections > b.maxToolRejections), .toolRejection)]

def chargeVerifier (probe : Bool) : LedgerM Unit :=
  charge
    (fun c =>
      { c with
        verifierCalls := c.verifierCalls + 1
        modelCalls := c.modelCalls + 1
        verifierInputTokens := c.verifierInputTokens + 8
        verifierOutputTokens := c.verifierOutputTokens + 4
        inputTokens := c.inputTokens + 8
        outputTokens := c.outputTokens + 4
        verifierProbes := if probe then c.verifierProbes + 1 else c.verifierProbes })
    fun b c =>
      (decide (c.verifierCalls > b.maxVerifierCalls), .verifier) ::
        (decide (c.verifierProbes > b.maxVerifierProbes), .verifierProbe) :: modelAndTokens b c

def chargeStep (blocked : Bool) : LedgerM Unit :=
  if blocked then
    charge (fun c => { c with blockedSteps := c.blockedSteps + 1 })
      fun b c => [(decide (c.blockedSteps > b.maxBlockedSteps), .blockedStep)]
  else
    charge (fun c => { c with executedSteps := c.executedSteps + 1 })
      fun b c => [(decide (c.executedSteps > b.maxExecutedSteps), .executedStep)]

def chargeAction : LedgerM Unit :=
  charge (fun c => { c with workerActions := c.workerActions + 1 })
    fun b c => [(decide (c.workerActions > b.maxSteps), .action)]

def chargeDomObservation (rawBytes : Nat) : LedgerM Unit :=
  charge
    (fun c =>
      { c with
        domObservations := c.domObservations + 1
        domObservationBytes := c.domObservationBytes + rawBytes
        compressedDomBytes := c.compressedDomBytes + min rawBytes 6144
        routeDecisions := c.routeDecisions + 1 })
    fun b c =>
      [(decide (c.domObservations > b.maxDomObservations), .domObservation),
        (decide (c.domObservationBytes > b.maxDomObservationBytes), .domByte),
        (decide (c.compressedDomBytes > b.maxCompressedDomBytes), .compressedDom)]

def chargeContextAssembly : LedgerM Unit :=
  charge (fun c => { c with contextAssemblies := c.contextAssemblies + 1 })
    fun b c => [(decide (c.contextAssemblies > b.maxContextAssemblies), .contextAssembly)]

def chargeContextItem (canonicalBytes estimatedTokens : Nat) : LedgerM Unit :=
  charge
    (fun c =>
      { c with
        contextItems := c.contextItems + 1
        contextBytes := c.contextBytes + canonicalBytes
        contextTokens := c.contextTokens + estimatedTokens })
    fun b c =>
      [(decide (c.contextItems > b.maxContextItems), .contextItem),
        (decide (c.contextBytes > b.maxContextBytes), .contextByte),
        (decide (c.contextTokens > b.maxContextTokens), .contextToken)]

def chargeRetrieval (candidates selected : Nat) : LedgerM Unit :=
  charge
    (fun c =>
      { c with
        retrievalQueries := c.retrievalQueries + 1
        retrievalCandidates := c.retrievalCandidates + candidates
        retrievalSelected := c.retrievalSelected + selected })
    fun b c =>
      [(decide (c.retrievalQueries > b.maxRetrievalQueries ∨
        c.retrievalCandidates > b.maxRetrievalCandidates ∨
        c.retrievalSelected > b.maxRetrievalSelected), .retrieval)]

def chargeSummary (inputs outputs dropped : Nat) : LedgerM Unit :=
  charge
    (fun c =>
      { c with
        summaryInputs := c.summaryInputs + inputs
        summaryOutputs := c.summaryOutputs + outputs
        summaryDropped := c.summaryDropped + dropped })
    fun b c =>
      [(decide (c.summaryInputs > b.maxSummaryInputs ∨ c.summaryOutputs > b.maxSummaryOutputs ∨
        c.summaryDropped > b.maxSummaryDropped), .summary)]

def chargeMemory (reads writes deletes rejections : Nat) : LedgerM Unit :=
  charge
    (fun c =>
      { c with
        memoryReads := c.memoryReads + reads
        memoryWrites := c.memoryWrites + writes
        memoryDeletes := c.memoryDeletes + deletes
        memoryRejections := c.memoryRejections + rejections })
    fun b c =>
      [(decide (c.memoryReads > b.maxMemoryReads ∨ c.memoryWrites > b.maxMemoryWrites ∨
        c.memoryDeletes > b.maxMemoryDeletes ∨
        c.memoryRejections > b.maxMemoryRejections), .memory)]

def canExecuteAction : LedgerM Bool := do
  let l ← get
  set l.tick
  pure (!l.late && decide (l.counters.workerActions < l.budget.maxSteps))

def snapshot : LedgerM TotalUsage := do
  let l ← get
  set l.tick
  pure { l.counters with elapsedMs := ((l.clock l.readings - l.started) / 1000).toNat }

/-! ## What a charge does -/

/-- The clock is read once. -/
theorem checkTime_eq (l : TotalBudgetLedger) :
    checkTime l = if l.late then .error .time l.tick else .ok () l.tick := by
  unfold checkTime
  simp only [bind_apply, get_apply, set_apply]
  split
  · rfl
  · rfl

theorem check_eq (exceeded : TotalBudget → Counters → List (Bool × BudgetReason))
    (l : TotalBudgetLedger) :
    check exceeded l =
      match (exceeded l.budget l.counters).find? (·.1) with
      | none => .ok () l
      | some (_, reason) => .error reason l := by
  unfold check
  simp only [bind_apply, get_apply]
  cases (exceeded l.budget l.counters).find? (·.1) <;> rfl

theorem charge_eq (change : Counters → Counters)
    (exceeded : TotalBudget → Counters → List (Bool × BudgetReason)) (l : TotalBudgetLedger) :
    charge change exceeded l =
      if l.late then .error .time l.tick else check exceeded (l.tick.count change) := by
  unfold charge
  simp only [bind_apply]
  rw [checkTime_eq]
  by_cases hlate : l.late
  · rw [if_pos hlate, if_pos hlate]
  · rw [if_neg hlate, if_neg hlate]
    rfl

end TotalBudgetLedger

end FlowPilot.Planning
