import FlowPilot.Agents.Loop

/-!
# The DOM agent

`AgentLoop` of `flowpilot_dom_agent`.
-/

open FlowPilot.Browser

namespace FlowPilot.Agents.Dom

structure ElementState where
  disabled : Bool := false
  checked : Option Bool := none
  selected : Option Bool := none
  expanded : Option Bool := none
  readonly : Bool := false
  required : Bool := false
  deriving DecidableEq

structure SemanticNode where
  role : String
  name : String
  text : String
  deriving DecidableEq

structure InteractiveElement where
  elementRef : String
  role : String
  name : String
  state : ElementState
  allowedActions : List ActionType
  options : List String := []
  deriving DecidableEq

structure Observation where
  currentUrl : String
  pageTitle : String
  semanticNodes : List SemanticNode
  interactiveElements : List InteractiveElement
  pageError : Option String := none
  truncated : Bool := false
  deriving DecidableEq

/-- `_observation_fingerprint`; its JSON text determines these parts. -/
structure Fingerprint where
  url : String
  title : String
  semantic : List SemanticNode
  interactive : List InteractiveElement
  error : Option String
  deriving DecidableEq

def fingerprint (o : Observation) : Fingerprint where
  url := o.currentUrl
  title := o.pageTitle
  semantic := o.semanticNodes
  -- without the references, which are new in every observation
  interactive := o.interactiveElements.map fun element => { element with elementRef := "" }
  error := o.pageError

abbrev kind : Kind where
  Observation := Observation
  Summary := ActionSummary
  Signature := BrowserAction ElementTarget
  Fingerprint := Fingerprint
  Own := Unit

def wording : Wording where
  created := "Unable to create an isolated Browser Worker session"
  time := "Agent exceeded its wall-time budget"
  calls := "Agent exhausted its model-call budget"
  inputSpent := "Agent exhausted its input-token budget"
  outputSpent := "Agent exhausted its output-token budget"
  cost := "Agent exceeded its cost budget"
  inputExceeded := "Model response exceeded input-token budget"
  outputExceeded := "Model response exceeded output-token budget"
  costExceeded := "Model response exceeded cost budget"
  modelFailed := "Model call failed and the browser session was closed"
  invalidOutput := "Model output was not valid strict action JSON"
  rejected := "Browser Worker rejected or failed the typed action"
  omitted := "Non-terminal Browser Worker result omitted its observation"
  noProgress := "Observation state made no progress for too many actions"
  steps := "Agent exhausted its step budget"
  finished := "Agent finished; an independent W3 grade is still required"
  escalated := "Agent escalated"
  failed := "Agent failed"

abbrev Script := Agents.Script Observation (BrowserAction ElementTarget)

structure AgentRunResult where
  taskId : String
  status : RunStatus
  terminalReason : String
  steps : Nat
  actionCount : Nat
  modelCalls : Nat
  inputTokens : Nat
  outputTokens : Nat
  costMicrousd : Nat
  actions : List ActionSummary

/-- `_result`. -/
def result (taskId : String) (status : RunStatus) (reason : String) (l : Locals kind) :
    AgentRunResult where
  taskId := taskId
  status := status
  terminalReason := reason
  steps := l.steps
  actionCount := l.actions.length
  modelCalls := l.modelCalls
  inputTokens := l.inputTokens
  outputTokens := l.outputTokens
  costMicrousd := l.costMicrousd
  actions := l.actions

variable (limits : Limits) (script : Script) (budget : AgentBudget)

/-- The fields that grow or are cleared where a form is filled without a visible change. -/
def hiddenFormProgress (success : Bool) (type : ActionType) : Bool :=
  success && (type = .fill || type = .select)

/-- One pass of the loop of `AgentLoop.run`. -/
def turn : Flow kind PUnit := do
  let spent ← preCallBudgetStatus script wording budget
  quitIf spent
  let action ← complete script wording budget 1 (pure ⟨⟩)
  checkRepeated wording budget (action.signature id)
  let answer ← executeAction script wording limits .dom action.actionId
    { action := elementAction action } (pure ⟨⟩)
  record ⟨answer.actionId, answer.actionType, answer.success, answer.errorCategory,
    clip 160 answer.message⟩
  if answer.terminal then
    let (status, reason) := terminalActionStatus wording action answer.message
    stop status reason
  else
    match answer.observation with
    | none => quit .browserError wording.omitted
    | some observation => do
      modify fun l => { l with observation := observation }
      checkProgress wording budget (fingerprint observation)
        (hiddenFormProgress answer.success action.type)

/-- The variables before the loop. -/
def initial (observation : Observation) : Locals kind where
  observation := observation
  priorFingerprint := fingerprint observation
  own := ()
  session := script.session

/-- `AgentLoop.run`, with the requests that the worker has seen. -/
def run (taskId : String) : Option AgentRunResult × List (Exchange Observation) :=
  match script.created with
  | none =>
    (some {
      taskId := taskId
      status := .browserError
      terminalReason := wording.created
      steps := 0
      actionCount := 0
      modelCalls := 0
      inputTokens := 0
      outputTokens := 0
      costMicrousd := 0
      actions := [] }, [])
  | some observation =>
    ending (result taskId) (rounds wording (turn limits script budget) budget.maxSteps)
      (initial script observation)

end FlowPilot.Agents.Dom
