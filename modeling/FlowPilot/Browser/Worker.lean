import FlowPilot.Canonical

/-!
# Handlers of the browser worker

The action handlers of `runtime.py`, one for each mode, from the grant of the session lock to its
release.  Up to its first suspension a handler is a function of the session and the request; what
the page answers while it is suspended is an outcome that comes from outside.
-/

namespace FlowPilot.Browser

/-! ## Requests -/

inductive Mode where
  | dom | vision | hybrid | recovery
  deriving DecidableEq, Repr

inductive Modality where
  | dom | vision
  deriving DecidableEq, Repr

inductive ActionType where
  | navigate | click | fill | select | read | scroll | wait | finish | fail
  deriving DecidableEq, Repr

/-- The actions on an element that an observation showed. -/
def ActionType.targeted : ActionType → Bool
  | .click | .fill | .select | .read | .scroll => true
  | .navigate | .wait | .finish | .fail => false

/-- `FinishAction` and `FailAction`. -/
def ActionType.ends : ActionType → Bool
  | .finish | .fail => true
  | _ => false

structure Action where
  type : ActionType
  durationMs : Nat := 0
  observationId : String := ""
  screenshotRef : Option String := none
  reference : String := ""
  deriving DecidableEq

/-- An action with its envelope; `dom` and `vision` sessions take the bare action. -/
structure ActionRequest where
  action : Action
  sessionId : String := ""
  sessionEpoch : Nat := 0
  generation : Nat := 0
  modality : Modality := .dom
  idempotent : Bool := false
  deriving DecidableEq

inductive ErrorCategory where
  | invalidUrl | invalidModality | staleElementRef | unknownElementRef | staleVisualRef
  | unknownVisualRef | staleHybridRef | unknownHybridRef | actionNotAllowed
  | actionBudgetExhausted | navigationBudgetExhausted | sessionTimeout | waitLimitExceeded
  | inputRejected | browserTimeout | browserError | screenshotBudgetExhausted
  | screenshotByteLimitExceeded | screenshotCaptureTimeout | hybridObservationBudgetExhausted
  | hybridDomObservationBudgetExhausted | idempotencyMismatch | internalError
  deriving DecidableEq, Repr

structure ActionResult where
  success : Bool
  terminal : Bool
  errorCategory : Option ErrorCategory := none
  deriving DecidableEq

/-- A result with `terminal=True` and without success. -/
def terminalFailure (category : ErrorCategory) : ActionResult := ⟨false, true, some category⟩

/-! ## Sessions -/

structure Limits where
  maxActions : Nat := 50
  maxNavigations : Nat := 10
  maxWaitMs : Nat := 5000
  maxSessionSeconds : Nat := 300

structure Target where
  reference : String
  allowedActions : List ActionType
  deriving DecidableEq

structure Session where
  sessionId : String
  mode : Mode
  startedAt : Time
  actionCount : Nat := 0
  navigationCount : Nat := 1
  observationId : String := ""
  references : List Target := []
  visionScreenshotRef : Option String := none
  visionReferences : List Target := []
  hybridGeneration : Nat := 0
  hybridModality : Option Modality := none
  recoveryEpoch : Option Nat := none
  closed : Bool := false
  deriving DecidableEq

/-- The flag of `_close_session` and the references it clears. -/
def Session.close (s : Session) : Session :=
  { s with
    closed := true
    references := []
    visionReferences := []
    visionScreenshotRef := none }

def Session.counted (s : Session) : Session := { s with actionCount := s.actionCount + 1 }

/-! ## Budgets -/

def timedOut (limits : Limits) (s : Session) (now : Time) : Prop :=
  limits.maxSessionSeconds * second < now - s.startedAt

-- with the literal on the left the decision is stuck at once where the limit is a variable
instance (limits : Limits) (s : Session) (now : Time) : Decidable (timedOut limits s now) :=
  decidable_of_iff (second * limits.maxSessionSeconds < now - s.startedAt)
    (by rw [timedOut, Nat.mul_comm])

/-- The check that `_terminal_budget_error` and its two copies make. -/
def budgetError (limits : Limits) (s : Session) (a : Action) (now : Time) :
    Option ErrorCategory :=
  if timedOut limits s now then some .sessionTimeout
  else if limits.maxActions ≤ s.actionCount then some .actionBudgetExhausted
  else if a.type = .navigate ∧ limits.maxNavigations ≤ s.navigationCount then
    some .navigationBudgetExhausted
  else if a.type = .wait ∧ limits.maxWaitMs < a.durationMs then some .waitLimitExceeded
  else none

def terminalBudgetError (limits : Limits) (s : Session) (a : Action) (now : Time) :
    Option ErrorCategory := budgetError limits s a now

def visionTerminalBudgetError (limits : Limits) (s : Session) (a : Action) (now : Time) :
    Option ErrorCategory := budgetError limits s a now

def hybridTerminalBudgetError (limits : Limits) (s : Session) (r : ActionRequest) (now : Time) :
    Option ErrorCategory := budgetError limits s r.action now

/-! ## References -/

def lookupTarget (targets : List Target) (a : Action) (unknown : ErrorCategory) :
    Option ErrorCategory :=
  match targets.find? fun t => t.reference = a.reference with
  | none => some unknown
  | some t => if a.type ∈ t.allowedActions then none else some .actionNotAllowed

/-- `_resolve_target`. -/
def resolveTarget (s : Session) (a : Action) : Option ErrorCategory :=
  if a.observationId ≠ s.observationId then some .staleElementRef
  else lookupTarget s.references a .unknownElementRef

/-- `_resolve_vision_target`. -/
def resolveVisionTarget (s : Session) (a : Action) : Option ErrorCategory :=
  if a.observationId ≠ s.observationId ∨ a.screenshotRef ≠ s.visionScreenshotRef then
    some .staleVisualRef
  else lookupTarget s.visionReferences a .unknownVisualRef

/-- `_hybrid_error_from_dom` and `_hybrid_error_from_vision`. -/
def hybridError : ErrorCategory → ErrorCategory
  | .staleElementRef | .staleVisualRef => .staleHybridRef
  | .unknownElementRef | .unknownVisualRef => .unknownHybridRef
  | category => category

/-! ## Handlers -/

inductive Reply where
  | result (r : ActionResult)
  | observation
  | sessionClosed
  | unknownSession
  /-- The expiry task has returned. -/
  | returned
  /-- An exception that is no `UnknownSessionError`. -/
  | raised
  | cancelled
  deriving DecidableEq

/-- Where a handler is that holds the lock. -/
inductive Handler where
  /-- In `_dispatch`. -/
  | dispatch
  /-- Building the observation of a result; `guarded` inside the `try` block. -/
  | observe (success : Bool) (category : Option ErrorCategory) (guarded : Bool)
  /-- Building the observation that was asked for. -/
  | refresh
  /-- About to close the session. -/
  | close (after : Reply)
  /-- In `_close_handles`. -/
  | closing (after : Reply)
  | answer (reply : Reply)
  deriving DecidableEq

/-- `_close_session` and the terminal result behind it. -/
def endWith (r : ActionResult) : Handler := .close (.result r)

/-- The target of a targeted action, and then its dispatch. -/
def dispatchTarget (a : Action) (resolve : Action → Option ErrorCategory) (guarded : Bool) :
    Handler :=
  if a.type.targeted then
    match resolve a with
    | some category => .observe false (some category) guarded
    | none => .dispatch
  else .dispatch

/-- `execute_action`. -/
def executeAction (limits : Limits) (s : Session) (r : ActionRequest) (now : Time) :
    Session × Handler :=
  match terminalBudgetError limits s r.action now with
  | some category => (s, endWith (terminalFailure category))
  | none =>
    if r.action.type.ends then (s.counted, endWith ⟨r.action.type = .finish, true, none⟩)
    else (s.counted, dispatchTarget r.action (resolveTarget s) false)

/-- `execute_vision_action`. -/
def executeVisionAction (limits : Limits) (s : Session) (r : ActionRequest) (now : Time) :
    Session × Handler :=
  match visionTerminalBudgetError limits s r.action now with
  | some category => (s, endWith (terminalFailure category))
  | none =>
    if r.action.type.ends then (s.counted, endWith ⟨r.action.type = .finish, true, none⟩)
    else (s.counted, dispatchTarget r.action (resolveVisionTarget s) false)

/-- `_hybrid_failure_observation`. -/
def hybridFailure (s : Session) (category : ErrorCategory) (guarded : Bool) : Handler :=
  if s.hybridModality = none then endWith (terminalFailure .internalError)
  else .observe false (some category) guarded

/-- `execute_hybrid_action`. -/
def executeHybridAction (limits : Limits) (s : Session) (r : ActionRequest) (now : Time) :
    Session × Handler :=
  match hybridTerminalBudgetError limits s r now with
  | some category => (s, endWith (terminalFailure category))
  | none =>
    (s.counted,
      if r.sessionId ≠ s.sessionId then hybridFailure s .unknownHybridRef false
      else if r.generation ≠ s.hybridGeneration then hybridFailure s .staleHybridRef false
      else if s.hybridModality ≠ some r.modality then hybridFailure s .invalidModality false
      else if r.action.type.ends then endWith ⟨r.action.type = .finish, true, none⟩
      else
        let resolve := match r.modality with
          | .dom => resolveTarget s
          | .vision => resolveVisionTarget s
        dispatchTarget r.action (fun a => (resolve a).map hybridError) true)

/-- `execute_recovery_action`. -/
def executeRecoveryAction (limits : Limits) (s : Session) (r : ActionRequest) (now : Time) :
    Session × Handler :=
  if limits.maxActions ≤ s.actionCount ∨ timedOut limits s now then
    (s, endWith (terminalFailure .actionBudgetExhausted))
  else
    (s.counted,
      if r.sessionId ≠ s.sessionId then .observe false (some .unknownHybridRef) false
      else if some r.sessionEpoch ≠ s.recoveryEpoch then .observe false (some .staleHybridRef) false
      else if r.generation ≠ s.hybridGeneration then .observe false (some .staleHybridRef) false
      else if s.hybridModality ≠ some .dom then .observe false (some .invalidModality) false
      else if r.action.type.ends then endWith ⟨r.action.type = .finish, true, none⟩
      else
        match dispatchTarget r.action (fun a => (resolveTarget s a).map hybridError) true with
        | .dispatch =>
          -- idempotency metadata requires a mutation click
          if r.idempotent ∧ r.action.type ≠ .click then .observe false (some .inputRejected) false
          else .dispatch
        | failed => failed)

/-! ## Outcomes -/

inductive DispatchOutcome where
  | done
  /-- The receipt of an idempotent click does not match. -/
  | receiptMismatch
  | security
  /-- `resolve_navigation` refused before the page was asked. -/
  | refused
  | policy
  | invalidValue
  | timeout
  | browserError
  | failed
  | cancelled
  deriving DecidableEq, Repr

/-- Two of the handlers have a clause for a cancellation. -/
def afterCancellation : Mode → Handler
  | .hybrid | .recovery => .close .cancelled
  | .dom | .vision => .answer .cancelled

/-- What a handler does when `_dispatch` has come to an end. -/
def afterDispatch (mode : Mode) (a : Action) : DispatchOutcome → Handler
  | .done => .observe true none true
  | .receiptMismatch => .observe false (some .idempotencyMismatch) true
  | .security => endWith (terminalFailure .actionNotAllowed)
  | .refused | .policy =>
    if mode ≠ .recovery ∧ a.type = .navigate then .observe false (some .invalidUrl) false
    else .observe false (some .inputRejected) false
  | .invalidValue =>
    if mode = .recovery then .observe false (some .inputRejected) false else .answer .raised
  | .timeout => .observe false (some .browserTimeout) false
  | .browserError => .observe false (some .browserError) false
  | .failed => .answer .raised
  | .cancelled => afterCancellation mode

/-- What an observation leaves in the session. -/
structure Observation where
  observationId : String
  references : List Target := []
  visionScreenshotRef : Option String := none
  visionReferences : List Target := []
  modality : Modality := .dom

def Session.observed (s : Session) (o : Observation) : Session :=
  { s with
    observationId := o.observationId
    references := o.references
    visionScreenshotRef := o.visionScreenshotRef
    visionReferences := o.visionReferences
    hybridGeneration := s.hybridGeneration + 1
    hybridModality := some o.modality }

inductive ObserveOutcome where
  | built (o : Observation)
  /-- A page outside the sandbox or an exhausted budget, with its category. -/
  | refused (category : ErrorCategory)
  | security
  /-- A `ValueError` that is none of the two above. -/
  | invalidValue
  | timeout
  | browserError
  | failed
  | cancelled

/-- The clauses behind the `try` block; outside of it the exception leaves the handler. -/
def exceptClause (guarded : Bool) (category : ErrorCategory) : Handler :=
  if guarded then .observe false (some category) false else .answer .raised

/-- A page error of an observation: `HybridObservationError` ends hybrid and recovery sessions. -/
def pageError (mode : Mode) (category : Option ErrorCategory) (guarded : Bool)
    (error : ErrorCategory) : Handler :=
  match mode with
  | .hybrid => endWith (terminalFailure error)
  | .recovery => endWith (terminalFailure (category.getD .internalError))
  | .dom | .vision => exceptClause guarded error

/-- What a handler does when the observation of its result is there or has failed. -/
def afterObserve (mode : Mode) (a : Action) (success : Bool) (category : Option ErrorCategory)
    (guarded : Bool) : ObserveOutcome → Handler
  | .built _ => .answer (.result ⟨success, false, category⟩)
  | .refused refusal =>
    match mode with
    | .vision | .hybrid => endWith (terminalFailure refusal)
    | .recovery => endWith (terminalFailure (category.getD .internalError))
    | .dom => exceptClause guarded (if a.type = .navigate then .invalidUrl else .inputRejected)
  | .security =>
    if guarded then endWith (terminalFailure .actionNotAllowed) else .answer .raised
  | .invalidValue =>
    if mode = .recovery then exceptClause guarded .inputRejected else .answer .raised
  | .timeout => pageError mode category guarded .browserTimeout
  | .browserError => pageError mode category guarded .browserError
  | .failed => .answer .raised
  | .cancelled => afterCancellation mode

/-- What an observation request does then: any exception closes the session. -/
def afterRefresh : ObserveOutcome → Handler
  | .built _ => .answer .observation
  | .cancelled => .close .cancelled
  | _ => .close .raised

end FlowPilot.Browser
