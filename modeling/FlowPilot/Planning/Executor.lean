import FlowPilot.Planning.Instructions
import FlowPilot.Planning.RecoveryStep
import FlowPilot.Planning.StepMachine

/-!
# The planning executor

`PlanningExecutor.run`.  The browser answers as a script says; the state keeps the variables of the
run, which `_result` reads also after an exception, and what has happened so far.
-/

open FlowPilot.Lib

namespace FlowPilot.Planning.Executor

/-! ## Requests and results -/

inductive FakeScenario where
  | completeWithRejectionProbe | finishImmediately | verifierInconclusive | outOfOrderProbe
  deriving DecidableEq, Repr

structure PlanningRunRequest where
  runId : String
  taskId : String
  suppliedValues : SuppliedValues
  fakeScenario : FakeScenario

inductive PlanningRunStatus where
  | finishedUngraded | failed | invalidPlan | dependencyBlocked | toolRejected
  | verificationNotVerified | verificationInconclusive | budgetExhausted | browserError
  deriving DecidableEq, Repr

structure StepExecutionResult where
  stepId : StepId
  state : StepState
  actionCount : Nat
  verifier : Option VerifierResult
  deriving DecidableEq

structure PlanningRunResult where
  runId : String
  taskId : String
  status : PlanningRunStatus
  terminalReason : String
  planId : Option Digest
  topology : List StepId
  stepResults : List StepExecutionResult
  toolRejectionReasons : List ToolRejectionReason
  usage : TotalUsage

/-! ## The browser -/

/-- How a call of the browser client ends. -/
inductive Answer (α : Type) where
  | answered (value : α)
  | raised
  | cancelled

/-- `HybridActionResult`, whose validator wants an observation exactly if it is not terminal. -/
structure HybridActionResult where
  success : Bool
  terminal : Bool
  observation : Option HybridDomObservation
  consistent : terminal = observation.isNone

structure BrowserScript where
  create : Answer (String × HybridDomObservation)
  actions : Nat → Answer HybridActionResult
  observe : Answer HybridDomObservation
  close : Answer Unit

/-! ## State -/

/-- What a run does; an action is for a step, or for none, on what was last observed. -/
inductive Event where
  | created
  | started (id : StepId)
  | charged
  | performed (step : Option PlanStep) (seen : HybridDomObservation) (action : DomAction)
  | verified (id : StepId)
  | closed

structure ExecutorState where
  ledger : TotalBudgetLedger
  machine : StepStateMachine := ⟨fun _ => none, fun _ => none⟩
  planId : Option Digest := none
  topology : List StepId := []
  stepResults : List StepExecutionResult := []
  rejectionReasons : List ToolRejectionReason := []
  sessionId : Option String := none
  actionNumber : Nat := 0
  sent : Nat := 0
  events : List Event := []

abbrev ExecM := EStateM PlanningError ExecutorState

def charging {α : Type} (x : LedgerM α) : ExecM α :=
  zoom ExecutorState.ledger (fun s l => { s with ledger := l }) PlanningError.budgetExceeded x

def record (e : Event) : ExecM Unit := modify fun s => { s with events := s.events ++ [e] }

def orRaise {α : Type} : Except PlanningError α → ExecM α
  | .ok a => pure a
  | .error e => throw e

def fetch {α : Type} : Answer α → ExecM α
  | .answered a => pure a
  | .raised => throw .other
  | .cancelled => throw .cancelled

/-- `reason[:300]`. -/
def truncated (reason : String) : String := String.ofList (reason.toList.take 300)

variable (text : TextFunctions) (browser : BrowserScript) (request : PlanningRunRequest)

/-- `_result`, with the variables as they are. -/
def conclude (status : PlanningRunStatus) (reason : String) : ExecM PlanningRunResult := do
  let usage ← charging TotalBudgetLedger.snapshot
  let s ← get
  pure
    { runId := request.runId
      taskId := request.taskId
      status := status
      terminalReason := truncated reason
      planId := s.planId
      topology := s.topology
      stepResults := s.stepResults
      toolRejectionReasons := s.rejectionReasons
      usage := usage }

def addResult (r : StepExecutionResult) : ExecM Unit :=
  modify fun s => { s with stepResults := s.stepResults ++ [r] }

def addRejection (reason : ToolRejectionReason) : ExecM Unit :=
  modify fun s => { s with rejectionReasons := s.rejectionReasons ++ [reason] }

/-! ## Actions -/

def nextActionId : ExecM String := do
  modify fun s => { s with actionNumber := s.actionNumber + 1 }
  let s ← get
  pure ("act_w7_" ++ toString s.actionNumber)

/-- The action of an envelope. -/
def actionFor (o : HybridDomObservation) (actionId : String) (instruction : Instruction) :
    Except PlanningError DomAction :=
  let element := elementOf text o instruction.action instruction.label
  match instruction.action with
  | .navigate =>
    match requiredPage instruction with
    | none =>
      .error (.executionFailure "Navigate instruction was outside the fixed Sandbox paths" none)
    | some page => .ok (.navigate actionId (pagePath page))
  | .fill =>
    element.map fun e => .fill actionId o.observationId e.elementRef (instruction.value.getD "")
  | .click => element.map fun e => .click actionId o.observationId e.elementRef
  | .read => element.map fun e => .read actionId o.observationId e.elementRef
  | _ => .error (.executionFailure "Fake executor received an unsupported instruction" none)

def chargeAction : ExecM Unit := do
  charging TotalBudgetLedger.chargeAction
  record .charged

/-- `execute_action`. -/
def execute (step : Option PlanStep) (seen : HybridDomObservation) (action : DomAction) :
    ExecM HybridActionResult := do
  let s ← get
  set { s with sent := s.sent + 1, events := s.events ++ [Event.performed step seen action] }
  fetch (browser.actions s.sent)

def nonFinal : PlanningError :=
  .executionFailure "A non-final Planning step terminated the Worker session" none

/-- `_execute_operation`, from an instruction on. -/
def perform (step : PlanStep) : List Instruction → HybridDomObservation → Bool → Nat →
    ExecM (HybridDomObservation × Bool × Nat)
  | [], o, actionSuccess, actionCount => pure (o, actionSuccess, actionCount)
  | instruction :: rest, o, _, actionCount => do
    let page ← orRaise (pageOf text o)
    match ← charging (Matcher.run step instruction.action.value page (workerAllowed o)) with
    | .rejected reason =>
      throw (.executionFailure "Current step tool intersection rejected an action" (some reason))
    | .matched _ => do
      let actionId ← nextActionId
      let action ← orRaise (actionFor text o actionId instruction)
      chargeAction
      let r ← execute browser (some step) o action
      match r.observation with
      | none => throw nonFinal
      | some o' => do
        charging (TotalBudgetLedger.chargeDomObservation o'.domObservationBytes)
        if r.success then perform step rest o' true (actionCount + 1)
        else pure (o', false, actionCount + 1)

/-- `_execute_operation`. -/
def executeOperation (step : PlanStep) (o : HybridDomObservation) :
    ExecM (HybridDomObservation × Bool × Nat) :=
  match instructions step request.suppliedValues with
  | none => throw valuesMismatch
  | some selected => perform text browser step selected o false 0

/-- `_finish`. -/
def finish (step : Option PlanStep) (o : HybridDomObservation) : ExecM HybridActionResult := do
  chargeAction
  let actionId ← nextActionId
  execute browser step o
    (.finish actionId "Deterministic Planning run ended; grading remains external")

/-- `_finish` and the check of its result. -/
def boundedFinish (step : Option PlanStep) (o : HybridDomObservation) : ExecM Unit := do
  let r ← finish browser step o
  if !r.success || !r.terminal then
    throw (.executionFailure "Browser Worker did not accept bounded finish" none)

/-! ## The steps -/

/-- `state_machine.start`; a blocked step gives the text of its exception. -/
def tryStart (id : StepId) : ExecM (Option String) := fun s =>
  match StepStateMachine.start id s.machine with
  | .ok _ m => .ok none { s with machine := m, events := s.events ++ [.started id] }
  | .error (.dependencyBlocked message) m => .ok (some message) { s with machine := m }
  | .error _ m => .error .other { s with machine := m }

def onMachine (x : MachineM Unit) : ExecM Unit :=
  zoom ExecutorState.machine (fun s m => { s with machine := m }) (fun _ => PlanningError.other) x

/-- A step that cannot start ends the run. -/
def blocked (id : StepId) (message : String) : ExecM PlanningRunResult := do
  charging (TotalBudgetLedger.chargeStep true)
  addResult ⟨id, .blocked, 0, none⟩
  conclude request .dependencyBlocked message

/-- The observation that the verifier gets; the first step asks for a new one. -/
def probeObservation (probe : Bool) (o : HybridDomObservation) : ExecM HybridDomObservation :=
  if probe then do
    let o' ← fetch browser.observe
    charging (TotalBudgetLedger.chargeDomObservation o'.domObservationBytes)
    pure o'
  else pure o

/-- A step that is not verified ends the run. -/
def unverified (step : PlanStep) (actionCount : Nat) (verification : VerifierResult) :
    ExecM PlanningRunResult := do
  let terminal : StepState := if step.fallback = .escalate then .escalated else .failed
  onMachine (StepStateMachine.terminate step.stepId terminal)
  charging (TotalBudgetLedger.chargeStep true)
  addResult ⟨step.stepId, terminal, actionCount, some verification⟩
  conclude request
    (if verification.status = .inconclusive then .verificationInconclusive
      else .verificationNotVerified)
    "Runtime step verification did not verify the step"

def markVerified (step : PlanStep) (actionCount : Nat) (verification : VerifierResult) :
    ExecM Unit := do
  onMachine (StepStateMachine.verify step.stepId)
  record (.verified step.stepId)
  addResult ⟨step.stepId, .verified, actionCount, some verification⟩

/-- The loop over the topology: a result that ends the run, or the last observation. -/
def runSteps (dag : PlanningDag) : List StepId → Bool → HybridDomObservation →
    ExecM (PlanningRunResult ⊕ HybridDomObservation)
  | [], _, o => pure (.inr o)
  | id :: rest, probe, o => do
    match Recovering.stepById dag id with
    | none => throw .other
    | some step => do
      match ← tryStart id with
      | some message => .inl <$> blocked request id message
      | none => do
        charging (TotalBudgetLedger.chargeStep false)
        let (o, actionSuccess, actionCount) ← executeOperation text browser request step o
        let o ← probeObservation browser probe o
        let page ← orRaise (pageOf text o)
        let s ← get
        let verification ← charging (verify
          ⟨step.stepId, step.expectedPage, page, actionSuccess,
            decide (request.fakeScenario = .verifierInconclusive) && s.stepResults.isEmpty⟩ probe)
        if verification.status ≠ .verified then
          .inl <$> unverified request step actionCount verification
        else do
          markVerified step actionCount verification
          runSteps dag rest false o

/-! ## The run -/

/-- `topology[i]` and `step_by_id`; either raises when there is none. -/
def stepAt (dag : PlanningDag) (id : Option StepId) : ExecM PlanStep :=
  match id.bind (Recovering.stepById dag) with
  | none => throw .other
  | some step => pure step

/-- The scenario that starts the second step first. -/
def outOfOrderProbe (topology : List StepId) : ExecM PlanningRunResult := do
  match topology[1]? with
  | none => throw .other
  | some id => do
    match ← tryStart id with
    | some message => blocked request id message
    | none =>
      throw (.executionFailure "Out-of-order dependency probe unexpectedly executed" none)

/-- The probe with an unknown tool. -/
def toolProbe (dag : PlanningDag) (topology : List StepId) (o : HybridDomObservation) :
    ExecM Unit := do
  let first ← stepAt dag topology.head?
  let page ← orRaise (pageOf text o)
  match ← charging (Matcher.run first "shell" page globalTools) with
  | .rejected reason => addRejection reason
  | .matched _ => throw (.executionFailure "Unknown tool probe unexpectedly matched" none)

/-- The finish of a run whose steps are all verified. -/
def finalFinish (dag : PlanningDag) (topology : List StepId) (o : HybridDomObservation) :
    ExecM PlanningRunResult := do
  let final ← stepAt dag topology.getLast?
  let page ← orRaise (pageOf text o)
  match ← charging (Matcher.run final "finish" page globalTools) with
  | .rejected reason => do
    addRejection reason
    throw (.executionFailure "Final finish tool was rejected" (some reason))
  | .matched _ => do
    boundedFinish browser (some final) o
    conclude request .finishedUngraded
      "Planning Agent finished; independent database-fact grading is required"

/-- The run once its session exists. -/
def withSession (dag : PlanningDag) (topology : List StepId) (o : HybridDomObservation) :
    ExecM PlanningRunResult := do
  charging (TotalBudgetLedger.chargeDomObservation o.domObservationBytes)
  if request.fakeScenario = .finishImmediately then do
    boundedFinish browser none o
    conclude request .finishedUngraded
      "Planning Agent finished immediately; independent grading is required"
  else do
    modify fun s => { s with machine := .init dag }
    if request.fakeScenario = .outOfOrderProbe then outOfOrderProbe request topology
    else do
      toolProbe text dag topology o
      match ← runSteps text browser request dag topology true o with
      | .inl result => pure result
      | .inr o => finalFinish text browser request dag topology o

def createSession : ExecM HybridDomObservation := do
  let (sessionId, o) ← fetch browser.create
  modify fun s => { s with sessionId := some sessionId, events := s.events ++ [.created] }
  pure o

variable [Sha256]

/-- The `try` block; the planner raises or has made a plan. -/
def body (plan : Option PlanningDag) : ExecM PlanningRunResult := do
  match plan with
  | none => throw .other
  | some dag => do
    match validateDag dag with
    | none => throw .other
    | some validation =>
      if validation.valid = false ∨ validation.planId = none then
        conclude request .invalidPlan "Planning DAG failed strict validation"
      else do
        modify fun s =>
          { s with planId := validation.planId, topology := validation.topology }
        charging (TotalBudgetLedger.chargePlan validation.nodeCount validation.edgeCount
          validation.depth validation.serializedBytes)
        let o ← createSession browser
        withSession text browser request dag validation.topology o

/-- The `except` clauses. -/
def handled (plan : Option PlanningDag) : ExecM PlanningRunResult :=
  tryCatch (body text browser request plan) fun e =>
    match e with
    | .budgetExceeded reason => conclude request .budgetExhausted reason.value
    | .executionFailure reason rejection => do
      match rejection with
      | none => conclude request .failed reason
      | some rejection => do
        addRejection rejection
        conclude request .toolRejected reason
    | .cancelled => throw .cancelled
    | .httpError | .other =>
      conclude request .browserError
        "Planning Agent could not complete the isolated Browser Worker run"

/-- The `finally` clause: whatever the call raises is suppressed, but not a cancellation. -/
def closeSession : ExecM Unit := do
  let s ← get
  match s.sessionId with
  | none => pure ()
  | some _ => do
    record .closed
    match browser.close with
    | .answered _ | .raised => pure ()
    | .cancelled => throw .cancelled

/-- `run`. -/
def run (plan : Option PlanningDag) : ExecM PlanningRunResult := fun s =>
  match handled text browser request plan s with
  | .ok result t =>
    match closeSession browser t with
    | .ok _ u => .ok result u
    | .error e u => .error e u
  | .error e t =>
    match closeSession browser t with
    | .ok _ u => .error e u
    | .error e' u => .error e' u

end FlowPilot.Planning.Executor
