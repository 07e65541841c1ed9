import FlowPilot.Planning.DagExact
import FlowPilot.Planning.Instructions

/-!
# A step of a recovery run

`_step` of `RecoveryCoordinator`, under the gate of its run: no other command of the run goes on in
between.
-/

open FlowPilot.Lib

namespace FlowPilot.Planning.Recovering

/-! ## Requests and results -/

inductive FaultScenario where
  | none | activityPreDispatchOnce | postCommitPreCheckpointOnce | browserSessionLostOnce
  | browserWorkerRestartOnce | recoveryWorkerRestartOnce | transientTimeoutOnce
  | permanentFailure | checkpointVersionMismatch | checkpointHashMismatch | idempotencyMismatch
  | replanEligibleOnce | replanDisallowed
  deriving DecidableEq, Repr

inductive ActivityOutcome where
  | started | verified | sessionLost | replanEligible | permanentFailure | idempotencyMismatch
  | cleaned
  deriving DecidableEq, Repr

inductive ReceiptState where
  | created | replayed | mismatch
  deriving DecidableEq, Repr

structure ReceiptRecord where
  idempotencyKey : Sandbox.IdempotencyKey
  requestHash : Digest
  resultHash : Digest
  state : ReceiptState

/-- A `PlanningRecoveryActivity` whose command is `step`. -/
structure StepRequest where
  runId : String
  taskId : String
  suppliedValues : SuppliedValues
  faultScenario : FaultScenario
  stepId : Option StepId
  revision : Nat

def StepRequest.binding (request : StepRequest) : BindingRequest where
  runId := request.runId
  taskId := request.taskId
  stepId := request.stepId.map StepId.text
  revision := request.revision
  suppliedValues := request.suppliedValues

structure PlanningActivityResult where
  outcome : ActivityOutcome
  safeReason : String
  planHash : Digest
  topology : List StepId
  stepId : Option StepId
  sessionEpoch : Nat
  revision : Nat
  receipt : Option ReceiptRecord
  planningUsage : TotalUsage

/-! ## The browser -/

structure RecoveryReceiptResult where
  state : ReceiptState
  resultHash : Option Digest

structure RecoveryActionResult where
  success : Bool
  terminal : Bool
  errorCategory : Option String
  observation : Option HybridDomObservation
  receipt : Option RecoveryReceiptResult

/-- What a call of the browser client comes to. -/
inductive Reply where
  | result (r : RecoveryActionResult)
  | httpError
  /-- Any other exception, such as a reply that does not validate. -/
  | raised

/-! ## State -/

structure RecoveryRunState where
  dag : PlanningDag
  planHash : Digest
  topology : List StepId
  sessionId : String
  sessionEpoch : Nat
  observation : HybridDomObservation
  ledger : TotalBudgetLedger
  completed : List StepId := []
  completedResults : List (StepId × PlanningActivityResult) := []
  injectedFaults : List FaultScenario := []
  actionNumber : Nat := 0
  /-- The calls of the browser so far. -/
  sent : Nat := 0

structure RecoveryDomActionEnvelope where
  sessionId : String
  sessionEpoch : Nat
  generation : Nat
  action : DomAction
  idempotency : Option RecoveryIdempotencyBinding

abbrev StepM := EStateM PlanningError RecoveryRunState

/-- A charge of the run's ledger. -/
def charging {α : Type} (x : LedgerM α) : StepM α :=
  zoom RecoveryRunState.ledger (fun s l => { s with ledger := l }) PlanningError.budgetExceeded x

def orRaise {α : Type} : Except PlanningError α → StepM α
  | .ok a => pure a
  | .error e => throw e

/-- `_result`. -/
def result (request : StepRequest) (outcome : ActivityOutcome) (reason : String)
    (receipt : Option ReceiptRecord) : StepM PlanningActivityResult := do
  let usage ← charging TotalBudgetLedger.snapshot
  let state ← get
  pure
    { outcome := outcome
      safeReason := reason
      planHash := state.planHash
      topology := state.topology
      stepId := request.stepId
      sessionEpoch := state.sessionEpoch
      revision := request.revision
      receipt := receipt
      planningUsage := usage }

/-- `_instructions_for_step`; `none` is the `ExecutionFailure` of `_instructions`. -/
def instructionsForStep (step : PlanStep) (values : SuppliedValues) (currentPage : Page) :
    Option (List Instruction) :=
  (instructions step values).map fun selected =>
    selected.filter fun instruction =>
      ¬ (step.operation = .finalize ∧ instruction.action = .read) ∧
        ¬ (instruction.action = .navigate ∧ requiredPage instruction = some currentPage)

/-- `"f" * 64`, the request hash of the injected mismatch. -/
def mismatchHash : Digest := ⟨BitVec.allOnes 256⟩

/-- `"0" * 64`. -/
def zeroHash : Digest := ⟨0⟩

variable [Sha256]

/-- The action of an envelope. -/
def actionFor (text : TextFunctions) (o : HybridDomObservation) (actionId : String)
    (instruction : Instruction) : Except PlanningError DomAction :=
  let element := elementOf text o instruction.action instruction.label
  match instruction.action with
  | .navigate => .ok (.navigate actionId (instruction.value.getD ""))
  | .fill =>
    element.map fun e => .fill actionId o.observationId e.elementRef (instruction.value.getD "")
  | .click => element.map fun e => .click actionId o.observationId e.elementRef
  | .read => element.map fun e => .read actionId o.observationId e.elementRef
  | _ => .error (.executionFailure "unsupported recovery instruction" none)

/-- The binding of an envelope: a click that mutates has one. -/
def bindingFor (request : StepRequest) (step : PlanStep) (instruction : Instruction) :
    StepM (Option RecoveryIdempotencyBinding) := do
  if instruction.action = .click ∧ instruction.label ≠ some "Show transitions" then
    match buildBinding request.binding step.operation with
    | .error _ => throw .other
    | .ok binding => do
      let state ← get
      if request.faultScenario = .idempotencyMismatch ∧
          FaultScenario.idempotencyMismatch ∉ state.injectedFaults then do
        set { state with injectedFaults := .idempotencyMismatch :: state.injectedFaults }
        pure (some { binding with requestHash := mismatchHash })
      else pure (some binding)
  else pure none

/-- `_envelope`. -/
def envelope (text : TextFunctions) (request : StepRequest) (step : PlanStep)
    (o : HybridDomObservation) (instruction : Instruction) :
    StepM (RecoveryDomActionEnvelope × Option RecoveryIdempotencyBinding) := do
  modify fun s => { s with actionNumber := s.actionNumber + 1 }
  let numbered ← get
  let action ← orRaise
    (actionFor text o ("act_w8_" ++ toString numbered.actionNumber) instruction)
  let binding ← bindingFor request step instruction
  let state ← get
  pure (⟨state.sessionId, state.sessionEpoch, o.generation, action, binding⟩, binding)

/-- `_is_recoverable_browser_failure`. -/
def isRecoverableBrowserFailure (r : RecoveryActionResult) : Bool :=
  !r.success &&
    (r.errorCategory = some "browser_timeout" || r.errorCategory = some "browser_error")

/-- Where the loop over the instructions ends: with a result, or with what the verifier reads. -/
inductive LoopEnd where
  | returned (result : PlanningActivityResult)
  | ended (observation : HybridDomObservation) (actionSuccess : Bool)
      (receipt : Option ReceiptRecord)

/-- `execute_recovery_action`. -/
def execute (replies : Nat → Reply) : StepM RecoveryActionResult := do
  let n := (← get).sent
  modify fun s => { s with sent := s.sent + 1 }
  match replies n with
  | .result r => pure r
  | .httpError => throw .httpError
  | .raised => throw .other

/-- The receipt that the reply to a bound action leaves. -/
def receiptOf (r : RecoveryActionResult) (binding : Option RecoveryIdempotencyBinding)
    (receipt : Option ReceiptRecord) : Option ReceiptRecord :=
  match r.receipt, binding with
  | some reply, some binding =>
    some ⟨binding.idempotencyKey, binding.requestHash, reply.resultHash.getD zeroHash, reply.state⟩
  | _, _ => receipt

/-- The reply rejects a bound action as a replay with another hash. -/
def rejectsReplay (r : RecoveryActionResult) (binding : Option RecoveryIdempotencyBinding) :
    Bool :=
  match r.receipt, binding with
  | some reply, some _ => decide (reply.state = .mismatch)
  | _, _ => false

/-- The loop over the instructions. -/
def perform (text : TextFunctions) (replies : Nat → Reply) (request : StepRequest)
    (step : PlanStep) : List Instruction → HybridDomObservation → Bool → Option ReceiptRecord →
      StepM LoopEnd
  | [], o, actionSuccess, receipt => pure (.ended o actionSuccess receipt)
  | instruction :: rest, o, _, receipt => do
    charging TotalBudgetLedger.chargeAction
    let (_, binding) ← envelope text request step o instruction
    let r ← execute replies
    match r.terminal, r.observation with
    | false, some o' => do
      modify fun s => { s with observation := o' }
      charging (TotalBudgetLedger.chargeDomObservation o'.domObservationBytes)
      let receipt := receiptOf r binding receipt
      if rejectsReplay r binding then
        .returned <$> result request .idempotencyMismatch "Sandbox rejected changed-hash replay"
          receipt
      else if isRecoverableBrowserFailure r then
        .returned <$> result request .sessionLost "recoverable Browser action failure" receipt
      else if r.success then perform text replies request step rest o' true receipt
      else pure (.ended o' false receipt)
    | _, _ => .returned <$> result request .sessionLost "recovery action lost session" none

/-- The `try` block of `_step`. -/
def attempt (text : TextFunctions) (replies : Nat → Reply) (request : StepRequest)
    (step : PlanStep) : StepM PlanningActivityResult := do
  charging (TotalBudgetLedger.chargeStep false)
  let o := (← get).observation
  let currentPage ← orRaise (pageOf text o)
  match instructionsForStep step request.suppliedValues currentPage with
  | none => throw valuesMismatch
  | some selected =>
    match ← perform text replies request step selected o false none with
    | .returned r => pure r
    | .ended o' actionSuccess receipt => do
      let page ← orRaise (pageOf text o')
      let verification ← charging
        (verify ⟨step.stepId, step.expectedPage, page, actionSuccess, false⟩ false)
      if verification.status ≠ .verified then
        result request .permanentFailure "runtime Verifier did not verify step" none
      else do
        modify fun s => { s with completed := step.stepId :: s.completed }
        let verified ← result request .verified "step verified from current safe evidence" receipt
        modify fun s =>
          { s with completedResults := (step.stepId, verified) :: s.completedResults }
        pure verified

/-- The `except` clauses of `_step`. -/
def attemptSafely (text : TextFunctions) (replies : Nat → Reply) (request : StepRequest)
    (step : PlanStep) : StepM PlanningActivityResult :=
  tryCatch (attempt text replies request step) fun e =>
    match e with
    | .budgetExceeded _ | .executionFailure _ _ =>
      result request .permanentFailure "total ledger or tool limit reached" none
    | .httpError => result request .sessionLost "Browser Worker session unavailable" none
    | e => throw e

/-- `step_by_id`. -/
def stepById (dag : PlanningDag) (id : StepId) : Option PlanStep :=
  dag.steps.find? fun step => step.stepId = id

/-- The faults of the scenario that a step can still run into. -/
def pendingFault (request : StepRequest) (state : RecoveryRunState) :
    Option (FaultScenario × ActivityOutcome × String) :=
  if request.faultScenario ∈ state.injectedFaults then none
  else
    match request.faultScenario with
    | .permanentFailure =>
      some (.permanentFailure, .permanentFailure, "trusted permanent fault")
    | .browserSessionLostOnce =>
      some (.browserSessionLostOnce, .sessionLost, "current browser epoch was lost")
    | .browserWorkerRestartOnce =>
      some (.browserWorkerRestartOnce, .sessionLost, "current browser epoch was lost")
    | .replanEligibleOnce =>
      if state.completed = [] then none
      else some (.replanEligibleOnce, .replanEligible, "failed subgraph is replan eligible")
    | .replanDisallowed =>
      if state.completed = [] then none
      else some (.replanDisallowed, .replanEligible, "failed subgraph is replan eligible")
    | _ => none

/-- `_step`. -/
def runStep (text : TextFunctions) (replies : Nat → Reply) (request : StepRequest) :
    StepM PlanningActivityResult := do
  let state ← get
  match request.stepId with
  | none => result request .permanentFailure "step is outside current revision" none
  | some id =>
    if id ∉ state.topology then
      result request .permanentFailure "step is outside current revision" none
    else if id ∈ state.completed then do
      let default ← result request .verified "step already verified in recovery state" none
      pure (((state.completedResults.find? fun r => r.1 = id).map (·.2)).getD default)
    else
      match pendingFault request state with
      | some (fault, outcome, reason) => do
        modify fun s => { s with injectedFaults := fault :: s.injectedFaults }
        result request outcome reason none
      | none =>
        match stepById state.dag id with
        | none => throw .other
        | some step =>
          if step.dependencies.any fun d => d ∉ state.completed then
            result request .permanentFailure "step dependencies are not verified" none
          else attemptSafely text replies request step

end FlowPilot.Planning.Recovering
