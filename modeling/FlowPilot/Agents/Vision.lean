import FlowPilot.Agents.Loop

/-!
# The vision agent

`VisionAgentLoop` of `flowpilot_vision_agent`: the loop of the DOM agent with budgets for the
images that it observes.
-/

open FlowPilot.Browser

namespace FlowPilot.Agents.Vision

structure VisualBounds where
  x : Nat
  y : Nat
  width : Nat
  height : Nat
  deriving DecidableEq

structure VisualGrounding where
  groundingRef : String
  bounds : VisualBounds
  allowedActions : List ActionType
  deriving DecidableEq

structure VisionObservation where
  observationId : String
  screenshotRef : String
  imageBase64 : String
  imageWidth : Nat
  imageHeight : Nat
  imageBytes : Nat
  captureDurationMs : Nat
  groundings : List VisualGrounding
  pageError : Option String := none

/-- `_observation_fingerprint`; its JSON text determines these parts. -/
structure Fingerprint where
  imageDigest : Digest
  width : Nat
  height : Nat
  groundings : List (VisualBounds × List ActionType)
  error : Option String
  deriving DecidableEq

variable [Sha256]

def fingerprint (o : VisionObservation) : Fingerprint where
  imageDigest := Sha256.sha256 (utf8 o.imageBase64)
  width := o.imageWidth
  height := o.imageHeight
  groundings := o.groundings.map fun grounding => (grounding.bounds, grounding.allowedActions)
  error := o.pageError

/-- The counters of the images. -/
structure Images where
  imageCount : Nat := 0
  imageBytes : Nat := 0
  imagePixels : Nat := 0
  captureDurationMs : Nat := 0

abbrev kind : Kind where
  Observation := VisionObservation
  Summary := ActionSummary
  Signature := BrowserAction Unit
  Fingerprint := Fingerprint
  Own := Images

def wording : Wording where
  created := "Unable to create an isolated visual Browser Worker session"
  time := "Vision Agent exceeded its wall-time budget"
  calls := "Vision Agent exhausted its model-call budget"
  inputSpent := "Vision Agent exhausted its input-token budget"
  outputSpent := "Vision Agent exhausted its output-token budget"
  cost := "Vision Agent exceeded its cost budget"
  inputExceeded := "Vision model response exceeded input-token budget"
  outputExceeded := "Vision model response exceeded output-token budget"
  costExceeded := "Vision model response exceeded cost budget"
  modelFailed := "Vision model call failed and the browser session was closed"
  invalidOutput := "Vision model output was not valid strict action JSON"
  rejected := "Browser Worker rejected or failed the typed visual action"
  omitted := "Non-terminal Browser Worker result omitted its visual observation"
  noProgress := "Visual observation made no progress for too many actions"
  steps := "Vision Agent exhausted its step budget"
  finished := "Vision Agent finished; an independent W3 grade is still required"
  escalated := "Vision Agent escalated"
  failed := "Vision Agent failed"

structure VisionAgentBudget extends AgentBudget where
  maxSteps := 24
  maxModelCalls := 24
  maxDurationSeconds := 300
  maxInputTokens := 100000
  maxOutputTokens := 20000
  maxImages : Nat := 24
  maxImageBytes : Nat := 4423680
  maxImagePixels : Nat := 12441600
  maxCaptureMs : Nat := 72000

/-- `_add_image`. -/
def addImage (o : VisionObservation) (images : Images) : Images where
  imageCount := images.imageCount + 1
  imageBytes := images.imageBytes + o.imageBytes
  imagePixels := images.imagePixels + o.imageWidth * o.imageHeight
  captureDurationMs := images.captureDurationMs + o.captureDurationMs

/-- `_image_budget_status`. -/
def imageBudgetStatus (images : Images) (budget : VisionAgentBudget) :
    Option (RunStatus × String) :=
  if budget.maxImages < images.imageCount then
    some (.imageBudgetExhausted, "Vision Agent exhausted its image budget")
  else if budget.maxImageBytes < images.imageBytes then
    some (.imageByteBudgetExhausted, "Vision Agent exceeded its image-byte budget")
  else if budget.maxImagePixels < images.imagePixels then
    some (.imagePixelBudgetExhausted, "Vision Agent exceeded its image-pixel budget")
  else if budget.maxCaptureMs < images.captureDurationMs then
    some (.captureTimeBudgetExhausted, "Vision Agent exceeded capture-time budget")
  else none

abbrev Script := Agents.Script VisionObservation (BrowserAction GroundingTarget)

structure VisionAgentRunResult where
  taskId : String
  status : RunStatus
  terminalReason : String
  steps : Nat
  actionCount : Nat
  modelCalls : Nat
  images : Images
  inputTokens : Nat
  outputTokens : Nat
  costMicrousd : Nat
  actions : List ActionSummary

/-- `_result`. -/
def result (taskId : String) (status : RunStatus) (reason : String) (l : Locals kind) :
    VisionAgentRunResult where
  taskId := taskId
  status := status
  terminalReason := reason
  steps := l.steps
  actionCount := l.actions.length
  modelCalls := l.modelCalls
  images := l.own
  inputTokens := l.inputTokens
  outputTokens := l.outputTokens
  costMicrousd := l.costMicrousd
  actions := l.actions

variable (limits : Limits) (script : Script) (budget : VisionAgentBudget)

/-- An observation with its images counted and checked. -/
def observeImage (observation : VisionObservation) : Flow kind PUnit := do
  modify fun l => { l with observation := observation, own := addImage observation l.own }
  let l ← get
  quitIf (imageBudgetStatus l.own budget)

/-- `isinstance(decision.action, (VisionFillAction, VisionSelectAction))` after a success. -/
def hiddenFormProgress (success : Bool) (type : ActionType) : Bool :=
  success && (type = .fill || type = .select)

/-- One pass of the loop of `VisionAgentLoop.run`. -/
def turn : Flow kind PUnit := do
  let spent ← preCallBudgetStatus script wording budget.toAgentBudget
  quitIf spent
  let action ← complete script wording budget.toAgentBudget 1 (pure ⟨⟩)
  checkRepeated wording budget.toAgentBudget (action.signature fun _ => ())
  let answer ← executeAction script wording limits .vision action.actionId
    { action := groundingAction action } (pure ⟨⟩)
  record ⟨answer.actionId, answer.actionType, answer.success, answer.errorCategory,
    clip 160 answer.message⟩
  if answer.terminal then
    let (status, reason) := terminalActionStatus wording action answer.message
    stop status reason
  else
    match answer.observation with
    | none => quit .browserError wording.omitted
    | some observation => do
      observeImage budget observation
      checkProgress wording budget.toAgentBudget (fingerprint observation)
        (hiddenFormProgress answer.success action.type)

/-- The variables before the first observation is counted. -/
def initial (observation : VisionObservation) : Locals kind where
  observation := observation
  priorFingerprint := fingerprint observation
  own := {}
  session := script.session

/-- `VisionAgentLoop.run` from the first observation on. -/
def loop (observation : VisionObservation) : Flow kind Empty := do
  observeImage budget observation
  rounds wording (turn limits script budget) budget.maxSteps

/-- `VisionAgentLoop.run`, with the requests that the worker has seen. -/
def run (taskId : String) : Option VisionAgentRunResult × List (Exchange VisionObservation) :=
  match script.created with
  | none =>
    (some {
      taskId := taskId
      status := .browserError
      terminalReason := wording.created
      steps := 0
      actionCount := 0
      modelCalls := 0
      images := {}
      inputTokens := 0
      outputTokens := 0
      costMicrousd := 0
      actions := [] }, [])
  | some observation =>
    ending (result taskId) (loop limits script budget observation) (initial script observation)

end FlowPilot.Agents.Vision
