import FlowPilot.Agents.Session
import FlowPilot.Lib.Escape

/-!
# Statements of the agent loops

The loops of the DOM, vision and hybrid agents have most of their statements in common.  `Kind`
names what differs in their data and `Wording` the texts; the loops put the statements together in
their own order.  An exit keeps the variables of the loop, which `_result` copies.
-/

open FlowPilot.Lib FlowPilot.Browser

namespace FlowPilot.Agents

/-! ## Actions -/

inductive FailCategory where
  | failed | escalated
  deriving DecidableEq, Repr

inductive Direction where
  | up | down
  deriving DecidableEq, Repr

inductive Amount where
  | small | page
  deriving DecidableEq, Repr

/-- `BrowserAction` and its siblings; `τ` is how an action names its element. -/
inductive BrowserAction (τ : Type) where
  | navigate (actionId url : String)
  | click (actionId : String) (target : τ)
  | fill (actionId : String) (target : τ) (text : String)
  | select (actionId : String) (target : τ) (option : String)
  | read (actionId : String) (target : τ)
  | scroll (actionId : String) (target : τ) (direction : Direction) (amount : Amount)
  | wait (actionId : String) (durationMs : Nat)
  | finish (actionId summary : String)
  | fail (actionId : String) (category : FailCategory) (reason : String)
  deriving DecidableEq

structure ElementTarget where
  observationId : String
  elementRef : String
  deriving DecidableEq

structure GroundingTarget where
  observationId : String
  screenshotRef : String
  groundingRef : String
  deriving DecidableEq

namespace BrowserAction

variable {τ υ : Type}

def type : BrowserAction τ → ActionType
  | .navigate .. => .navigate
  | .click .. => .click
  | .fill .. => .fill
  | .select .. => .select
  | .read .. => .read
  | .scroll .. => .scroll
  | .wait .. => .wait
  | .finish .. => .finish
  | .fail .. => .fail

def actionId : BrowserAction τ → String
  | .navigate i _ | .click i _ | .fill i _ _ | .select i _ _ | .read i _ | .scroll i _ _ _
  | .wait i _ | .finish i _ | .fail i _ _ => i

def target : BrowserAction τ → Option τ
  | .click _ t | .fill _ t _ | .select _ t _ | .read _ t | .scroll _ t _ _ => some t
  | .navigate .. | .wait .. | .finish .. | .fail .. => none

def durationMs : BrowserAction τ → Nat
  | .wait _ ms => ms
  | _ => 0

/-- `_action_signature`: the action without its id, and its target as `f` shows it. -/
def signature (f : τ → υ) : BrowserAction τ → BrowserAction υ
  | .navigate _ url => .navigate "" url
  | .click _ t => .click "" (f t)
  | .fill _ t text => .fill "" (f t) text
  | .select _ t option => .select "" (f t) option
  | .read _ t => .read "" (f t)
  | .scroll _ t direction amount => .scroll "" (f t) direction amount
  | .wait _ ms => .wait "" ms
  | .finish _ summary => .finish "" summary
  | .fail _ category reason => .fail "" category reason

end BrowserAction

/-- The action as the worker's endpoint reads it. -/
def elementAction (a : BrowserAction ElementTarget) : Action where
  type := a.type
  durationMs := a.durationMs
  observationId := (a.target.map (·.observationId)).getD ""
  reference := (a.target.map (·.elementRef)).getD ""

def groundingAction (a : BrowserAction GroundingTarget) : Action where
  type := a.type
  durationMs := a.durationMs
  observationId := (a.target.map (·.observationId)).getD ""
  screenshotRef := a.target.map (·.screenshotRef)
  reference := (a.target.map (·.groundingRef)).getD ""

/-! ## Results -/

/-- `RunStatus`, `VisionRunStatus` and `HybridRunStatus`, of which the last has all. -/
inductive RunStatus where
  | finishedUngraded | failed | escalated | invalidModelOutput | modelError
  | repeatedActionLimit | noProgressLimit | stepBudgetExhausted | modelCallBudgetExhausted
  | switchBudgetExhausted | domObservationBudgetExhausted | domObservationByteBudgetExhausted
  | compressedDomBudgetExhausted | imageBudgetExhausted | imageByteBudgetExhausted
  | imagePixelBudgetExhausted | captureTimeBudgetExhausted | inputTokenBudgetExhausted
  | outputTokenBudgetExhausted | costBudgetExhausted | timeBudgetExhausted | browserError
  deriving DecidableEq, Repr

structure ActionResult (ω : Type) where
  actionId : String
  actionType : ActionType
  success : Bool
  terminal : Bool
  errorCategory : Option ErrorCategory
  message : String
  observation : Option ω

structure ActionSummary where
  actionId : String
  actionType : ActionType
  success : Bool
  errorCategory : Option ErrorCategory
  message : String
  deriving DecidableEq

/-- `text[:n]`. -/
def clip (n : Nat) (text : String) : String := String.ofList (text.toList.take n)

/-! ## Budgets -/

structure ModelUsage where
  inputTokens : Nat
  outputTokens : Nat
  costMicrousd : Nat
  deriving DecidableEq

structure AgentBudget where
  maxSteps : Nat := 12
  maxModelCalls : Nat := 12
  maxRepeatedActions : Nat := 2
  maxNoProgress : Nat := 3
  maxDurationSeconds : Nat := 120
  maxInputTokens : Nat := 20000
  maxOutputTokens : Nat := 5000
  maxCostMicrousd : Nat := 0

/-- The texts of a loop. -/
structure Wording where
  created : String
  time : String
  calls : String
  inputSpent : String
  outputSpent : String
  cost : String
  inputExceeded : String
  outputExceeded : String
  costExceeded : String
  modelFailed : String
  invalidOutput : String
  repeated : String := "Consecutive identical action limit reached"
  rejected : String
  omitted : String
  noProgress : String
  steps : String
  finished : String
  escalated : String
  failed : String

/-! ## State -/

/-- What a loop observes, remembers of an action, compares, and counts besides. -/
structure Kind where
  Observation : Type
  Summary : Type
  Signature : Type
  Fingerprint : Type
  Own : Type

/-- What the model answers; the content is `none` where it is no valid decision. -/
inductive ModelReply (δ : Type) where
  | answer (content : Option δ) (usage : ModelUsage)
  /-- `ModelCallError`. -/
  | callError (usage : Option ModelUsage) (safeReason : String)
  | failed
  | cancelled
  deriving DecidableEq

/-- Everything that a run hears from outside. -/
structure Script (ω δ : Type) where
  /-- The first observation, unless `create_session` raises. -/
  created : Option ω
  /-- The session as the worker created it. -/
  session : Session
  visit : Nat → Visit ω
  reply : Nat → ModelReply δ
  clock : Nat → Time

structure Locals (K : Kind) where
  observation : K.Observation
  actions : List K.Summary := []
  steps : Nat := 0
  modelCalls : Nat := 0
  inputTokens : Nat := 0
  outputTokens : Nat := 0
  costMicrousd : Nat := 0
  previousSignature : Option K.Signature := none
  repeated : Nat := 0
  noProgress : Nat := 0
  priorFingerprint : K.Fingerprint
  own : K.Own
  session : Session
  exchanges : List (Exchange K.Observation) := []
  requests : Nat := 0
  deletes : Nat := 0
  modelTurns : Nat := 0
  /-- `started` is the first reading. -/
  clockReads : Nat := 1

inductive Exit where
  | stopped (status : RunStatus) (reason : String)
  | raised

abbrev Flow (K : Kind) := EStateM Exit (Locals K)

variable {K : Kind} {α δ : Type}

def stop (status : RunStatus) (reason : String) : Flow K α := throw (.stopped status reason)

/-- `_safe_close`; whether the delete succeeds is not looked at. -/
def safeClose : Flow K PUnit := modify fun l => { l with deletes := l.deletes + 1 }

def quit (status : RunStatus) (reason : String) : Flow K α := do
  safeClose
  stop status reason

def quitIf : Option (RunStatus × String) → Flow K PUnit
  | none => pure ⟨⟩
  | some (status, reason) => quit status reason

/-! ## Statements -/

section Statements

variable (script : Script K.Observation δ) (w : Wording) (budget : AgentBudget)

/-- `self._clock() - started`. -/
def elapsed : Flow K Time := do
  let l ← get
  modify fun l => { l with clockReads := l.clockReads + 1 }
  return script.clock l.clockReads - script.clock 0

/-- `_pre_call_budget_status`. -/
def preCallBudgetStatus : Flow K (Option (RunStatus × String)) := do
  let time ← elapsed script
  let l ← get
  return if budget.maxDurationSeconds * second < time then some (.timeBudgetExhausted, w.time)
    else if budget.maxModelCalls ≤ l.modelCalls then some (.modelCallBudgetExhausted, w.calls)
    else if budget.maxInputTokens ≤ l.inputTokens then
      some (.inputTokenBudgetExhausted, w.inputSpent)
    else if budget.maxOutputTokens ≤ l.outputTokens then
      some (.outputTokenBudgetExhausted, w.outputSpent)
    else if budget.maxCostMicrousd < l.costMicrousd then some (.costBudgetExhausted, w.cost)
    else none

/-- `_post_call_budget_status`. -/
def postCallBudgetStatus : Flow K (Option (RunStatus × String)) := do
  let time ← elapsed script
  let l ← get
  return if budget.maxDurationSeconds * second < time then some (.timeBudgetExhausted, w.time)
    else if budget.maxInputTokens < l.inputTokens then
      some (.inputTokenBudgetExhausted, w.inputExceeded)
    else if budget.maxOutputTokens < l.outputTokens then
      some (.outputTokenBudgetExhausted, w.outputExceeded)
    else if budget.maxCostMicrousd < l.costMicrousd then
      some (.costBudgetExhausted, w.costExceeded)
    else none

def charge (calls : Nat) (usage : ModelUsage) (l : Locals K) : Locals K :=
  { l with
    modelCalls := l.modelCalls + calls
    inputTokens := l.inputTokens + usage.inputTokens
    outputTokens := l.outputTokens + usage.outputTokens
    costMicrousd := l.costMicrousd + usage.costMicrousd }

/-- The model call with its budget check and the parsing of its answer.  `calls` is what a call
with a usage counts. -/
def complete (calls : Nat) (onCancel : Flow K PUnit) : Flow K δ := do
  let l ← get
  modify fun l => { l with modelTurns := l.modelTurns + 1 }
  match script.reply l.modelTurns with
  | .answer content usage =>
    modify (charge calls usage)
    let spent ← postCallBudgetStatus script w budget
    quitIf spent
    match content with
    | none => quit .invalidModelOutput w.invalidOutput
    | some decision => return decision
  | .callError usage safeReason =>
    modify fun l => usage.elim l fun u => charge calls u l
    safeClose
    let spent ← postCallBudgetStatus script w budget
    match spent with
    | some (status, reason) => stop status reason
    | none => stop .modelError safeReason
  | .failed => quit .modelError w.modelFailed
  | .cancelled => do
    onCancel
    throw .raised

def checkRepeated [DecidableEq K.Signature] (signature : K.Signature) : Flow K PUnit := do
  modify fun l =>
    if l.previousSignature = some signature then { l with repeated := l.repeated + 1 }
    else { l with repeated := 1, previousSignature := some signature }
  let l ← get
  if budget.maxRepeatedActions < l.repeated then quit .repeatedActionLimit w.repeated

variable (limits : Limits)

/-- `execute_action` of the client. -/
def executeAction (endpoint : Mode) (actionId : String) (r : ActionRequest)
    (onCancel : Flow K PUnit) : Flow K (ActionResult K.Observation) := do
  let l ← get
  let e : Exchange K.Observation := ⟨l.session, endpoint, r, script.visit l.requests⟩
  modify fun l =>
    { l with
      session := (respond limits e.session e.endpoint e.request e.visit).1
      exchanges := l.exchanges ++ [e]
      requests := l.requests + 1 }
  if e.visit.delivery = .cancelled then do
    onCancel
    throw .raised
  else
    match e.result limits with
    | none => quit .browserError w.rejected
    | some answer =>
      return {
        actionId := actionId
        actionType := r.action.type
        success := answer.success
        terminal := answer.terminal
        errorCategory := answer.errorCategory
        message := e.visit.message
        observation := if answer.terminal then none else some e.visit.view }

/-- `steps += 1` and the summary of the action. -/
def record (summary : K.Summary) : Flow K PUnit :=
  modify fun l => { l with steps := l.steps + 1, actions := l.actions ++ [summary] }

/-- `_terminal_action_status`. -/
def terminalActionStatus {τ : Type} (w : Wording) (a : BrowserAction τ) (message : String) :
    RunStatus × String :=
  match a with
  | .finish .. => (.finishedUngraded, w.finished)
  | .fail _ .escalated _ => (.escalated, if message = "" then w.escalated else message)
  | _ => (.failed, if message = "" then w.failed else message)

/-- The count of actions without progress; `hidden` where a form may have changed unseen. -/
def checkProgress [DecidableEq K.Fingerprint] (fingerprint : K.Fingerprint) (hidden : Bool) :
    Flow K PUnit := do
  modify fun l =>
    { l with
      noProgress := if hidden ∨ fingerprint ≠ l.priorFingerprint then 0 else l.noProgress + 1
      priorFingerprint := fingerprint }
  let l ← get
  if budget.maxNoProgress < l.noProgress then quit .noProgressLimit w.noProgress

end Statements

/-- `while steps < budget.max_steps`: a turn that comes back has taken one step. -/
def rounds (w : Wording) (turn : Flow K PUnit) : Nat → Flow K Empty
  | 0 => quit .stepBudgetExhausted w.steps
  | n + 1 => do
    turn
    rounds w turn n

/-- How a run ends: its result, unless it raises, and its action requests. -/
def ending {ρ : Type} (result : RunStatus → String → Locals K → ρ) (loop : Flow K Empty)
    (l : Locals K) : Option ρ × List (Exchange K.Observation) :=
  match loop l with
  | .ok never _ => never.elim
  | .error (.stopped status reason) t => (some (result status (clip 300 reason) t), t.exchanges)
  | .error .raised t => (none, t.exchanges)

end FlowPilot.Agents
