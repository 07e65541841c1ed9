import FlowPilot.Agents.Dom

/-!
# The hybrid agent

`HybridAgentLoop` of `flowpilot_hybrid_agent`, with its router and the compressor of its DOM
observations.  The modality of a request is the one that the agent observes.
-/

open FlowPilot.Browser

namespace FlowPilot.Agents.Hybrid

/-! ## Observations -/

inductive DomStructure where
  | usable | empty | truncated
  deriving DecidableEq, Repr

inductive SafeRouteErrorCategory where
  | invalidUrl | staleReference | unknownReference | actionNotAllowed | inputRejected
  | browserTimeout | browserError | budgetExhausted
  deriving DecidableEq, Repr

structure HybridRouteSignals where
  domStructure : DomStructure
  domObservationBytes : Nat
  lastActionErrorCategory : Option SafeRouteErrorCategory := none

structure DomObservation where
  observationId : String
  semanticNodes : List Dom.SemanticNode
  interactiveElements : List Dom.InteractiveElement
  truncated : Bool

structure VisualBounds where
  x : Nat
  y : Nat
  width : Nat
  height : Nat
  deriving DecidableEq

structure VisualGrounding where
  bounds : VisualBounds
  allowedActions : List ActionType

structure VisualObservation where
  observationId : String
  imageBase64 : String
  imageWidth : Nat
  imageHeight : Nat
  imageBytes : Nat
  captureDurationMs : Nat
  groundings : List VisualGrounding
  pageError : Option String := none

/-- `HybridObservation`, by its modality. -/
inductive Body where
  | dom (observation : DomObservation)
  | vision (observation : VisualObservation)

structure HybridObservation where
  sessionId : String
  generation : Nat
  body : Body
  routeSignals : HybridRouteSignals

def HybridObservation.modality (o : HybridObservation) : Modality :=
  match o.body with
  | .dom _ => .dom
  | .vision _ => .vision

/-- `_observation_fingerprint`; its JSON text determines these parts. -/
inductive Fingerprint where
  | dom (domStructure : DomStructure) (interactive : List (String × List ActionType × Bool))
      (truncated : Bool) (error : Option SafeRouteErrorCategory)
  | vision (imageDigest : Digest) (groundings : List (VisualBounds × List ActionType))
      (error : Option String)
  deriving DecidableEq

variable [Sha256]

def fingerprint (o : HybridObservation) : Fingerprint :=
  match o.body with
  | .dom d =>
    .dom o.routeSignals.domStructure
      (d.interactiveElements.map fun element =>
        (element.role, element.allowedActions, element.state.disabled))
      d.truncated o.routeSignals.lastActionErrorCategory
  | .vision v =>
    .vision (Sha256.sha256 (utf8 v.imageBase64))
      (v.groundings.map fun grounding => (grounding.bounds, grounding.allowedActions)) v.pageError

/-! ## Compressor -/

/-- The bytes of a character in `json.dumps(..., ensure_ascii=True)`. -/
def asciiWidth (c : Char) : Nat :=
  if c = '"' ∨ c = '\\' ∨ c.toNat ∈ [8, 9, 10, 12, 13] then 2
  else if 32 ≤ c.toNat ∧ c.toNat < 127 then 1
  else if c.toNat < 65536 then 6
  else 12

def textWidth (s : String) : Nat := 2 + (s.toList.map asciiWidth).sum

mutual

/-- The length of the text of `json.dumps` without blanks; the order of the keys does not show. -/
def jsonWidth : Json → Nat
  | .null => 4
  | .bool b => if b then 4 else 5
  | .num n => (toString n).length
  | .str s => textWidth s
  | .arr items => 2 + itemsWidth items
  | .obj fields => 2 + fieldsWidth fields

/-- The items and the commas between them. -/
def itemsWidth : List Json → Nat
  | [] => 0
  | [item] => jsonWidth item
  | item :: rest => jsonWidth item + 1 + itemsWidth rest

def fieldsWidth : List (String × Json) → Nat
  | [] => 0
  | [(name, value)] => textWidth name + 1 + jsonWidth value
  | (name, value) :: rest => textWidth name + 1 + jsonWidth value + 1 + fieldsWidth rest

end

def actionText : ActionType → String
  | .navigate => "navigate"
  | .click => "click"
  | .fill => "fill"
  | .select => "select"
  | .read => "read"
  | .scroll => "scroll"
  | .wait => "wait"
  | .finish => "finish"
  | .fail => "fail"

def stateJson (s : Dom.ElementState) : Json := .obj [
  ("disabled", .bool s.disabled),
  ("checked", Json.ofOption .bool s.checked),
  ("selected", Json.ofOption .bool s.selected),
  ("expanded", Json.ofOption .bool s.expanded),
  ("readonly", .bool s.readonly),
  ("required", .bool s.required)]

def nodeJson (n : Dom.SemanticNode) : Json :=
  .obj [("role", .str n.role), ("name", .str n.name), ("text", .str n.text)]

def elementJson (e : Dom.InteractiveElement) : Json := .obj [
  ("element_ref", .str e.elementRef),
  ("role", .str e.role),
  ("name", .str e.name),
  ("state", stateJson e.state),
  ("allowed_actions", .arr (e.allowedActions.map fun a => .str (actionText a))),
  ("options", .arr (e.options.map .str))]

structure CompressedDomObservation where
  sessionId : String
  generation : Nat
  observationId : String
  semanticNodes : List Dom.SemanticNode
  interactiveElements : List Dom.InteractiveElement
  truncated : Bool
  serializedBytes : Nat

/-- `_serialized_bytes`. -/
def CompressedDomObservation.width (c : CompressedDomObservation) : Nat :=
  jsonWidth (.obj [
    ("schema_version", .str "w6-compressed-observation/1.0"),
    ("modality", .str "dom"),
    ("session_id", .str c.sessionId),
    ("generation", .num c.generation),
    ("observation_id", .str c.observationId),
    ("semantic_nodes", .arr (c.semanticNodes.map nodeJson)),
    ("interactive_elements", .arr (c.interactiveElements.map elementJson)),
    ("truncated", .bool c.truncated),
    ("serialized_bytes", .num c.serializedBytes)])

def CompressedDomObservation.measured (c : CompressedDomObservation) : CompressedDomObservation :=
  { c with serializedBytes := c.width }

def maxSemanticNodes : Nat := 32

def maxInteractiveElements : Nat := 40

def maxCompressedDomBytes : Nat := 12288

/-- `_candidate`, which measures its own count of bytes along with the rest. -/
def candidate (sessionId : String) (generation : Nat) (source : DomObservation)
    (semantic : List Dom.SemanticNode) (interactive : List Dom.InteractiveElement)
    (truncated : Bool) : CompressedDomObservation :=
  let first : CompressedDomObservation := {
    sessionId := sessionId
    generation := generation
    observationId := source.observationId
    semanticNodes := semantic
    interactiveElements := interactive
    truncated := truncated
    serializedBytes := 1 }
  first.measured.measured.measured.measured

/-- The loop of `compress`: semantic nodes go first, then elements; `fuel` is their number. -/
def shrink (sessionId : String) (generation : Nat) (source : DomObservation) :
    Nat → List Dom.SemanticNode → List Dom.InteractiveElement → Bool →
      Option CompressedDomObservation
  | fuel, semantic, interactive, truncated =>
    let c := candidate sessionId generation source semantic interactive truncated
    if c.width ≤ maxCompressedDomBytes then some c
    else
      match fuel with
      | 0 => none
      | n + 1 =>
        if semantic ≠ [] then
          shrink sessionId generation source n semantic.dropLast interactive true
        else shrink sessionId generation source n semantic interactive.dropLast true

/-- `compress`; `none` is its `CompressionError`. -/
def compress (sessionId : String) (generation : Nat) (source : DomObservation) :
    Option CompressedDomObservation :=
  let semantic := source.semanticNodes.take maxSemanticNodes
  let interactive := source.interactiveElements.take maxInteractiveElements
  shrink sessionId generation source (semantic.length + interactive.length) semantic interactive
    (source.truncated || decide (semantic.length < source.semanticNodes.length) ||
      decide (interactive.length < source.interactiveElements.length))

/-! ## Router -/

inductive RouteCategory where
  | standard | visualRecovery
  deriving DecidableEq, Repr

inductive RouteReasonCode where
  | domDefault | domUsable | domStructureWeak | domActionFailure | trustedVisualRecovery
  | visionRetained | switchRefusedBudget | switchLimitReached
  deriving DecidableEq, Repr

structure RouteDecision where
  fromModality : Modality
  toModality : Modality
  reasonCode : RouteReasonCode
  switched : Bool
  switchCount : Nat
  deriving DecidableEq

structure ActionSummary where
  modality : Modality
  actionType : ActionType
  success : Bool
  errorCategory : Option ErrorCategory
  deriving DecidableEq

structure RouterState where
  switchCount : Nat := 0
  successfulDomProbes : Nat := 0

/-- `note_action`. -/
def RouterState.noteAction (s : RouterState) (a : ActionSummary) : RouterState :=
  if a.modality = .dom ∧ a.actionType = .read ∧ a.success then
    { s with successfulDomProbes := s.successfulDomProbes + 1 }
  else s

/-- What is left of each budget, below zero where it is overdrawn. -/
structure RouterBudget where
  remainingSteps : Int
  remainingModelCalls : Int
  remainingDomObservations : Int
  remainingDomObservationBytes : Int
  remainingCompressedDomBytes : Int
  remainingImages : Int
  remainingImageBytes : Int
  remainingImagePixels : Int
  remainingCaptureMs : Int
  remainingInputTokens : Int
  remainingOutputTokens : Int
  remainingCostMicrousd : Int
  remainingDurationSeconds : Nat
  maxSwitches : Nat

def RouterBudget.canRequestVision (b : RouterBudget) : Bool :=
  decide (0 < b.remainingSteps ∧ 0 < b.remainingModelCalls ∧ 0 ≤ b.remainingDomObservations ∧
    0 ≤ b.remainingDomObservationBytes ∧ 0 ≤ b.remainingCompressedDomBytes ∧
    0 < b.remainingImages ∧ 184320 ≤ b.remainingImageBytes ∧ 960 * 540 ≤ b.remainingImagePixels ∧
    3000 ≤ b.remainingCaptureMs ∧ 32 ≤ b.remainingInputTokens ∧ 16 ≤ b.remainingOutputTokens ∧
    0 ≤ b.remainingCostMicrousd ∧ 3000 / 1000 < b.remainingDurationSeconds)

/-- `_SAFE_DOM_SWITCH_ERRORS`: all but the exhausted budgets. -/
def safeDomSwitchErrors : List SafeRouteErrorCategory :=
  [.invalidUrl, .staleReference, .unknownReference, .actionNotAllowed, .inputRejected,
    .browserTimeout, .browserError]

/-- `_should_switch`. -/
def shouldSwitch (signals : HybridRouteSignals) (category : RouteCategory)
    (lastAction : Option ActionSummary) (s : RouterState) : Bool × RouteReasonCode :=
  if signals.domStructure = .empty ∨ signals.domStructure = .truncated then
    (true, .domStructureWeak)
  else if signals.lastActionErrorCategory.any fun e => e ∈ safeDomSwitchErrors then
    (true, .domActionFailure)
  else if category = .visualRecovery ∧ 1 ≤ s.successfulDomProbes then
    (true, .trustedVisualRecovery)
  else if lastAction = none then (false, .domDefault)
  else (false, .domUsable)

/-- `_decision`. -/
def decision (fromModality toModality : Modality) (reason : RouteReasonCode) (count : Nat) :
    RouteDecision where
  fromModality := fromModality
  toModality := toModality
  reasonCode := reason
  switched := decide (fromModality ≠ toModality)
  switchCount := count

/-- `decide`, with the state it leaves behind. -/
def route (current : Modality) (signals : HybridRouteSignals) (category : RouteCategory)
    (lastAction : Option ActionSummary) (s : RouterState) (b : RouterBudget) :
    RouteDecision × RouterState :=
  if current = .vision then (decision .vision .vision .visionRetained s.switchCount, s)
  else
    let (wanted, reason) := shouldSwitch signals category lastAction s
    if ¬ wanted then (decision .dom .dom reason s.switchCount, s)
    else if min 1 b.maxSwitches ≤ s.switchCount then
      (decision .dom .dom .switchLimitReached s.switchCount, s)
    else if ¬ b.canRequestVision then
      (decision .dom .dom .switchRefusedBudget s.switchCount, s)
    else
      (decision .dom .vision reason (s.switchCount + 1), { s with switchCount := s.switchCount + 1 })

/-! ## State -/

structure HybridAgentBudget extends AgentBudget where
  maxSteps := 24
  maxModelCalls := 24
  maxDurationSeconds := 300
  maxInputTokens := 100000
  maxOutputTokens := 20000
  maxSwitches : Nat := 2
  maxDomObservations : Nat := 24
  maxDomObservationBytes : Nat := 262144
  maxCompressedDomBytes : Nat := 147456
  maxImages : Nat := 24
  maxImageBytes : Nat := 4423680
  maxImagePixels : Nat := 12441600
  maxCaptureMs : Nat := 72000

/-- The rest of `_RunState`, and the router's state. -/
structure RunState where
  routes : List RouteDecision := []
  domObservationCount : Nat := 0
  domObservationBytes : Nat := 0
  compressedDomBytes : Nat := 0
  imageCount : Nat := 0
  imageBytes : Nat := 0
  imagePixels : Nat := 0
  captureDurationMs : Nat := 0
  lastAction : Option ActionSummary := none
  router : RouterState := {}

/-- The two action envelopes. -/
inductive ActionBody where
  | dom (action : BrowserAction ElementTarget)
  | vision (action : BrowserAction GroundingTarget)

structure HybridActionEnvelope where
  sessionId : String
  generation : Nat
  action : ActionBody

namespace HybridActionEnvelope

def modality (e : HybridActionEnvelope) : Modality :=
  match e.action with
  | .dom _ => .dom
  | .vision _ => .vision

def actionId (e : HybridActionEnvelope) : String :=
  match e.action with
  | .dom a => a.actionId
  | .vision a => a.actionId

/-- `_action_signature`. -/
def signature (e : HybridActionEnvelope) : Modality × BrowserAction Unit :=
  match e.action with
  | .dom a => (.dom, a.signature fun _ => ())
  | .vision a => (.vision, a.signature fun _ => ())

def request (e : HybridActionEnvelope) : ActionRequest where
  action := match e.action with
    | .dom a => elementAction a
    | .vision a => groundingAction a
  sessionId := e.sessionId
  generation := e.generation
  modality := e.modality

end HybridActionEnvelope

abbrev kind : Kind where
  Observation := HybridObservation
  Summary := ActionSummary
  Signature := Modality × BrowserAction Unit
  Fingerprint := Fingerprint
  Own := RunState

abbrev Script := Agents.Script HybridObservation HybridActionEnvelope

def wording : Wording where
  created := "Unable to create an isolated Hybrid Browser Worker session"
  time := "Hybrid Agent exceeded its wall-time budget"
  calls := "Hybrid Agent exhausted model calls"
  inputSpent := "Hybrid Agent exhausted input tokens"
  outputSpent := "Hybrid Agent exhausted output tokens"
  cost := "Hybrid Agent exceeded its cost budget"
  inputExceeded := "Hybrid model response exceeded input tokens"
  outputExceeded := "Hybrid model response exceeded output tokens"
  costExceeded := "Hybrid model response exceeded cost budget"
  modelFailed := "Hybrid model call failed and the browser session was closed"
  invalidOutput := "Hybrid model output was not valid strict action JSON"
  rejected := "Browser Worker rejected or failed the typed Hybrid action"
  omitted := "Non-terminal Browser Worker result omitted its current observation"
  noProgress := "Current selected observation made no progress for too many actions"
  steps := "Hybrid Agent exhausted its step budget"
  finished := "Hybrid Agent finished; an independent W3 grade is required"
  escalated := "Hybrid Agent escalated"
  failed := "Hybrid Agent failed"

structure HybridAgentRunResult where
  taskId : String
  status : RunStatus
  terminalReason : String
  steps : Nat
  actionCount : Nat
  modelCalls : Nat
  switches : Nat
  domObservationCount : Nat
  domObservationBytes : Nat
  compressedDomBytes : Nat
  imageCount : Nat
  imageBytes : Nat
  imagePixels : Nat
  captureDurationMs : Nat
  inputTokens : Nat
  outputTokens : Nat
  costMicrousd : Nat
  routes : List RouteDecision
  actions : List ActionSummary

/-- `_result`. -/
def result (taskId : String) (status : RunStatus) (reason : String) (l : Locals kind) :
    HybridAgentRunResult where
  taskId := taskId
  status := status
  terminalReason := reason
  steps := l.steps
  actionCount := l.actions.length
  modelCalls := l.modelCalls
  switches := l.own.router.switchCount
  domObservationCount := l.own.domObservationCount
  domObservationBytes := l.own.domObservationBytes
  compressedDomBytes := l.own.compressedDomBytes
  imageCount := l.own.imageCount
  imageBytes := l.own.imageBytes
  imagePixels := l.own.imagePixels
  captureDurationMs := l.own.captureDurationMs
  inputTokens := l.inputTokens
  outputTokens := l.outputTokens
  costMicrousd := l.costMicrousd
  routes := l.own.routes
  actions := l.actions

/-! ## Loop -/

section Loop

variable (limits : Limits) (script : Script) (category : RouteCategory)
  (budget : HybridAgentBudget)

/-- The counters of `_record_observation`. -/
def recordObservation (o : HybridObservation) (s : RunState) : RunState :=
  match o.body with
  | .dom _ =>
    { s with
      domObservationCount := s.domObservationCount + 1
      domObservationBytes := s.domObservationBytes + o.routeSignals.domObservationBytes }
  | .vision image =>
    { s with
      imageCount := s.imageCount + 1
      imageBytes := s.imageBytes + image.imageBytes
      imagePixels := s.imagePixels + image.imageWidth * image.imageHeight
      captureDurationMs := s.captureDurationMs + image.captureDurationMs }

/-- The checks of `_record_observation`. -/
def observationStatus (o : HybridObservation) (s : RunState) : Option (RunStatus × String) :=
  match o.body with
  | .dom _ =>
    if budget.maxDomObservations < s.domObservationCount then
      some (.domObservationBudgetExhausted, "Hybrid Agent exhausted DOM observations")
    else if budget.maxDomObservationBytes < s.domObservationBytes then
      some (.domObservationByteBudgetExhausted, "Hybrid Agent exceeded DOM observation bytes")
    else none
  | .vision _ =>
    if budget.maxImages < s.imageCount then
      some (.imageBudgetExhausted, "Hybrid Agent exhausted image observations")
    else if budget.maxImageBytes < s.imageBytes then
      some (.imageByteBudgetExhausted, "Hybrid Agent exceeded image bytes")
    else if budget.maxImagePixels < s.imagePixels then
      some (.imagePixelBudgetExhausted, "Hybrid Agent exceeded image pixels")
    else if budget.maxCaptureMs < s.captureDurationMs then
      some (.captureTimeBudgetExhausted, "Hybrid Agent exceeded image capture time")
    else none

/-- A new observation with `_record_observation`. -/
def observe (o : HybridObservation) : Flow kind PUnit := do
  modify fun l => { l with observation := o, own := recordObservation o l.own }
  let l ← get
  quitIf (observationStatus budget o l.own)

/-- `_router_budget`. -/
def routerBudget : Flow kind RouterBudget := do
  let time ← elapsed script
  let l ← get
  return {
    remainingSteps := (budget.maxSteps : Int) - l.steps
    remainingModelCalls := (budget.maxModelCalls : Int) - l.modelCalls
    remainingDomObservations := (budget.maxDomObservations : Int) - l.own.domObservationCount
    remainingDomObservationBytes :=
      (budget.maxDomObservationBytes : Int) - l.own.domObservationBytes
    remainingCompressedDomBytes :=
      (budget.maxCompressedDomBytes : Int) - l.own.compressedDomBytes
    remainingImages := (budget.maxImages : Int) - l.own.imageCount
    remainingImageBytes := (budget.maxImageBytes : Int) - l.own.imageBytes
    remainingImagePixels := (budget.maxImagePixels : Int) - l.own.imagePixels
    remainingCaptureMs := (budget.maxCaptureMs : Int) - l.own.captureDurationMs
    remainingInputTokens := (budget.maxInputTokens : Int) - l.inputTokens
    remainingOutputTokens := (budget.maxOutputTokens : Int) - l.outputTokens
    remainingCostMicrousd := (budget.maxCostMicrousd : Int) - l.costMicrousd
    remainingDurationSeconds := (budget.maxDurationSeconds * second - time) / second
    maxSwitches := budget.maxSwitches }

/-- `request_observation` of the client. -/
def requestObservation : Flow kind HybridObservation := do
  let l ← get
  let visit := script.visit l.requests
  modify fun l =>
    { l with
      session := (respondObservation l.session visit).1
      requests := l.requests + 1 }
  match visit.delivery, (respondObservation l.session visit).2 with
  | .cancelled, _ => do
    safeClose
    throw .raised
  | .delivered, .observation => return visit.view
  | _, _ =>
    quit .browserError "Browser Worker could not switch the current Hybrid observation"

/-- The decision of the router and the switch it asks for. -/
def switch : Flow kind PUnit := do
  let remaining ← routerBudget script budget
  let l ← get
  let (chosen, router) := route l.observation.modality l.observation.routeSignals category
    l.own.lastAction l.own.router remaining
  modify fun l =>
    { l with own := { l.own with routes := l.own.routes ++ [chosen], router := router } }
  if chosen.reasonCode = .switchLimitReached ∨ chosen.reasonCode = .switchRefusedBudget then
    quit .switchBudgetExhausted
      "Hybrid Router refused a required modality switch within total budgets"
  else if chosen.switched then do
    let o ← requestObservation script
    observe budget o

/-- `_model_observation` and `_compressed_budget_status`: a DOM observation is compressed and
counted. -/
def modelObservation : Flow kind PUnit := do
  let l ← get
  match l.observation.body with
  | .vision _ => pure ⟨⟩
  | .dom d =>
    match compress l.observation.sessionId l.observation.generation d with
    | none =>
      quit .compressedDomBudgetExhausted "W6 compressed DOM observation exceeded its byte cap"
    | some compressed => do
      let total := l.own.compressedDomBytes + compressed.serializedBytes
      modify fun l => { l with own := { l.own with compressedDomBytes := total } }
      if budget.maxCompressedDomBytes < total then
        quit .compressedDomBudgetExhausted "Hybrid Agent exhausted its compressed DOM-byte budget"

/-- `_terminal_action_status`. -/
def terminalStatus (e : HybridActionEnvelope) (message : String) : RunStatus × String :=
  match e.action with
  | .dom a => terminalActionStatus wording a message
  | .vision a => terminalActionStatus wording a message

/-- `summary`, which the router reads too. -/
def recordAction (summary : ActionSummary) : Flow kind PUnit := do
  record summary
  modify fun l =>
    { l with
      own := { l.own with
        lastAction := some summary
        router := l.own.router.noteAction summary } }

/-- One pass of the loop of `HybridAgentLoop.run`. -/
def turn : Flow kind PUnit := do
  let spent ← preCallBudgetStatus script wording budget.toAgentBudget
  quitIf spent
  switch script category budget
  modelObservation budget
  modify fun l => { l with modelCalls := l.modelCalls + 1 }
  let envelope ← complete script wording budget.toAgentBudget 0 safeClose
  let l ← get
  if envelope.modality ≠ l.observation.modality then
    quit .invalidModelOutput "Hybrid model action did not match the current selected modality"
  else do
    checkRepeated wording budget.toAgentBudget envelope.signature
    let answer ← executeAction script wording limits .hybrid envelope.actionId envelope.request
      safeClose
    recordAction ⟨envelope.modality, answer.actionType, answer.success, answer.errorCategory⟩
    if answer.terminal then
      let (status, reason) := terminalStatus envelope answer.message
      quit status reason
    else
      match answer.observation with
      | none => quit .browserError wording.omitted
      | some observation => do
        observe budget observation
        checkProgress wording budget.toAgentBudget (fingerprint observation)
          (Dom.hiddenFormProgress answer.success answer.actionType)

/-- The variables before the first observation is recorded. -/
def initial (observation : HybridObservation) : Locals kind where
  observation := observation
  priorFingerprint := fingerprint observation
  own := {}
  session := script.session

/-- `HybridAgentLoop.run` from the first observation on. -/
def loop (observation : HybridObservation) : Flow kind Empty := do
  observe budget observation
  rounds wording (turn limits script category budget) budget.maxSteps

/-- `HybridAgentLoop.run`, with the requests that the worker has seen. -/
def run (taskId : String) : Option HybridAgentRunResult × List (Exchange HybridObservation) :=
  match script.created with
  | none =>
    (some {
      taskId := taskId
      status := .browserError
      terminalReason := wording.created
      steps := 0
      actionCount := 0
      modelCalls := 0
      switches := 0
      domObservationCount := 0
      domObservationBytes := 0
      compressedDomBytes := 0
      imageCount := 0
      imageBytes := 0
      imagePixels := 0
      captureDurationMs := 0
      inputTokens := 0
      outputTokens := 0
      costMicrousd := 0
      routes := []
      actions := [] }, [])
  | some observation =>
    ending (result taskId) (loop limits script category budget observation)
      (initial script observation)

end Loop

end FlowPilot.Agents.Hybrid
