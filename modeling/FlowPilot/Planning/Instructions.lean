import FlowPilot.Planning.Dag
import FlowPilot.Planning.Ledger

/-!
# Instructions and checks of a step

What the executor and the recovery coordinator share: the observations they read, the instructions
of a step, the tool matcher and the step verifier.
-/

open FlowPilot.Lib

namespace FlowPilot.Planning

/-! ## Exceptions -/

inductive ToolRejectionReason where
  | unknownTool | stepDisallowed | pageDisallowed | modalityDisallowed | budgetExhausted
  deriving DecidableEq, Repr

inductive PlanningError where
  | budgetExceeded (reason : BudgetReason)
  | executionFailure (safeReason : String) (rejection : Option ToolRejectionReason)
  | httpError
  | cancelled
  | other
  deriving DecidableEq

/-! ## Observations -/

/-- What is read of texts: `urlsplit(s).path`, where `none` is its `ValueError`, and
`s.strip().casefold()`. -/
structure TextFunctions where
  urlPath : String → Option String
  folded : String → String

structure InteractiveElement where
  elementRef : String
  name : String
  disabled : Bool
  allowedActions : List AllowedAction
  deriving DecidableEq

/-- `HybridDomObservation`, with the fields of its `DomObservation` and its route signals that are
read. -/
structure HybridDomObservation where
  sessionId : String
  generation : Nat
  observationId : String
  currentUrl : String
  interactiveElements : List InteractiveElement
  domObservationBytes : Nat
  generation_range : 1 ≤ generation ∧ generation ≤ 24

theorem firstGeneration_range : 1 ≤ 1 ∧ 1 ≤ 24 := by decide

/-- `PAGE_PATH`. -/
def pagePath : Page → String
  | .hris => "/hris" | .itsm => "/itsm" | .iam => "/iam" | .assets => "/assets"
  | .mail => "/mail"

/-- `PATH_PAGE`. -/
def pathPage (path : String) : Option Page :=
  [Page.hris, .itsm, .iam, .assets, .mail].find? fun page => pagePath page = path

theorem pathPage_pagePath (page : Page) : pathPage (pagePath page) = some page := by
  cases page <;> decide

/-- `path.rstrip("/") or "/hris"`. -/
def pageText (path : String) : String :=
  let stripped := (path.toList.reverse.dropWhile (· = '/')).reverse
  if stripped = [] then "/hris" else String.ofList stripped

/-- `_page`. -/
def pageOf (text : TextFunctions) (o : HybridDomObservation) : Except PlanningError Page :=
  match text.urlPath o.currentUrl with
  | none => .error .other
  | some path =>
    match pathPage (pageText path) with
    | none =>
      .error (.executionFailure "Worker observation was outside fixed Sandbox pages" none)
    | some page => .ok page

/-! ## Instructions -/

structure Instruction where
  action : AllowedAction
  label : Option String := none
  value : Option String := none
  deriving DecidableEq

/-- `transitions`. -/
def transitions : Sandbox.W8Operation → Option (String × String)
  | .disableEmployee => some ("Disable employee ID", "Disable employee")
  | .closeTicket => some ("Close ticket employee ID", "Close ticket")
  | .revokeAccount => some ("Revoke account employee ID", "Revoke account")
  | .releaseAsset => some ("Release asset employee ID", "Release asset")
  | .disableMailbox => some ("Disable mailbox employee ID", "Disable mailbox")
  | _ => none

def fill (label value : String) : Instruction := ⟨.fill, some label, some value⟩

def click (label : String) : Instruction := ⟨.click, some label, none⟩

/-- `_instructions`; `none` is the `ExecutionFailure` for values of another process. -/
def instructions (step : PlanStep) (values : SuppliedValues) : Option (List Instruction) :=
  let navigate : Instruction := ⟨.navigate, none, some (pagePath step.expectedPage)⟩
  let showTransitions := click "Show transitions"
  let employeeId := toString values.employeeId
  match step.operation, values with
  | .inspectEmployee, _ | .finalize, _ => some [navigate, ⟨.read, none, none⟩]
  | .mutation .createTicket, .joiner v =>
    some [navigate, fill "Employee ID" employeeId, fill "Ticket title" v.ticketTitle,
      click "Create ticket"]
  | .mutation .createAccount, .joiner v =>
    some [navigate, fill "Employee ID" employeeId, fill "Username" v.username,
      click "Create account"]
  | .mutation .assignAsset, .joiner v =>
    some [navigate, fill "Employee ID" employeeId, fill "Asset tag" v.assetTag,
      fill "Model" v.laptopModel, click "Assign laptop"]
  | .mutation .createMailbox, .joiner v =>
    some [navigate, fill "Employee ID" employeeId, fill "Mailbox address" v.mailbox,
      click "Create mailbox"]
  | .mutation .transferEmployee, .mover v =>
    some [navigate, showTransitions, fill "Transfer employee ID" employeeId,
      fill "New department" v.newDepartment, fill "New job title" v.newJobTitle,
      fill "New location" v.newLocation, click "Transfer employee"]
  | .mutation operation, .mover _ | .mutation operation, .leaver _ =>
    (transitions operation).map fun (field, button) =>
      [navigate, showTransitions, fill field employeeId, click button]
  | .mutation _, .joiner _ => none

def valuesMismatch : PlanningError :=
  .executionFailure "Supplied values did not match the closed operation" none

/-- `_required_page`. -/
def requiredPage (instruction : Instruction) : Option Page :=
  instruction.value.bind pathPage

/-- `_element`. -/
def elementOf (text : TextFunctions) (o : HybridDomObservation) (action : AllowedAction)
    (label : Option String) : Except PlanningError InteractiveElement :=
  let candidates := o.interactiveElements.filter fun e =>
    action ∈ e.allowedActions ∧ e.disabled = false
  let named :=
    match label with
    | none => candidates
    | some label => candidates.filter fun e => text.folded e.name = text.folded label
  match named with
  | [] => .error (.executionFailure "Current DOM observation lacked an authorized element" none)
  | element :: _ => .ok element

/-- `_worker_allowed`. -/
def workerAllowed (o : HybridDomObservation) : List AllowedAction :=
  [.navigate, .wait, .finish, .fail] ++
    (o.interactiveElements.filter fun e => e.disabled = false).flatMap (·.allowedActions)

inductive DomAction where
  | navigate (actionId url : String)
  | click (actionId observationId elementRef : String)
  | fill (actionId observationId elementRef text : String)
  | read (actionId observationId elementRef : String)
  | finish (actionId summary : String)
  deriving DecidableEq

/-- The tool that an action uses. -/
def DomAction.tool : DomAction → AllowedAction
  | .navigate .. => .navigate
  | .click .. => .click
  | .fill .. => .fill
  | .read .. => .read
  | .finish .. => .finish

/-- The leaver of the sample runs. -/
def sampleLeaver : LeaverSuppliedValues := ⟨7, by decide, by decide⟩

/-! ## Tool matcher -/

/-- `GLOBAL_TOOLS`, which are also the tools of every page and modality. -/
def globalTools : List AllowedAction :=
  [.navigate, .click, .fill, .select, .read, .scroll, .wait, .finish, .fail]

def toolOf (candidate : String) : Option AllowedAction :=
  globalTools.find? fun action => action.value = candidate

inductive ToolMatchResult where
  | matched (action : AllowedAction)
  | rejected (reason : ToolRejectionReason)
  deriving DecidableEq

namespace Matcher

/-- `_reject`. -/
def reject (reason : ToolRejectionReason) : LedgerM ToolMatchResult :=
  tryCatch
    (do
      TotalBudgetLedger.chargeToolMatch true
      pure (.rejected reason))
    fun _ => pure (.rejected .budgetExhausted)

/-- `match`. -/
def run (step : PlanStep) (candidate : String) (page : Page) (allowed : List AllowedAction) :
    LedgerM ToolMatchResult := do
  match toolOf candidate with
  | none => reject .unknownTool
  | some action =>
    if action ∉ step.allowedActions then reject .stepDisallowed
    else if action ≠ .navigate ∧ page ≠ step.expectedPage then reject .pageDisallowed
    else if action ∉ allowed then reject .modalityDisallowed
    else if ← TotalBudgetLedger.canExecuteAction then do
      TotalBudgetLedger.chargeToolMatch false
      pure (.matched action)
    else reject .budgetExhausted

end Matcher

/-! ## Step verifier -/

inductive VerifierStatus where
  | verified | notVerified | inconclusive
  deriving DecidableEq, Repr

inductive VerifierReason where
  | conditionsSatisfied | actionFailed | pageMismatch | observationMissing | forcedInconclusive
  | budgetExhausted
  deriving DecidableEq, Repr

structure VerifierResult where
  stepId : StepId
  status : VerifierStatus
  reasonCode : VerifierReason
  deriving DecidableEq

/-- `VerifierRequest`, of which both callers have the page and the generation. -/
structure VerifierRequest where
  stepId : StepId
  expectedPage : Page
  currentPage : Page
  actionSuccess : Bool
  forceInconclusive : Bool := false

/-- What the verifier finds once it is paid for. -/
def VerifierRequest.judge (request : VerifierRequest) : VerifierResult :=
  if request.forceInconclusive then ⟨request.stepId, .inconclusive, .forcedInconclusive⟩
  else if ¬ request.actionSuccess then ⟨request.stepId, .notVerified, .actionFailed⟩
  else if request.currentPage ≠ request.expectedPage then
    ⟨request.stepId, .notVerified, .pageMismatch⟩
  else ⟨request.stepId, .verified, .conditionsSatisfied⟩

/-- `verify`. -/
def verify (request : VerifierRequest) (probe : Bool) : LedgerM VerifierResult :=
  tryCatch
    (do
      TotalBudgetLedger.chargeVerifier probe
      pure request.judge)
    fun _ => pure ⟨request.stepId, .inconclusive, .budgetExhausted⟩

theorem judge_verified (request : VerifierRequest) :
    request.judge.status = .verified ↔ request.forceInconclusive = false ∧
      request.actionSuccess = true ∧ request.currentPage = request.expectedPage := by
  unfold VerifierRequest.judge
  by_cases hforced : request.forceInconclusive = true
  · simp [hforced]
  · by_cases hsuccess : request.actionSuccess = true
    · by_cases hpage : request.currentPage = request.expectedPage
      · simp [hforced, hsuccess, hpage]
      · simp [hforced, hsuccess, hpage]
    · simp [hforced, hsuccess]

/-- The verifier judges what it can pay for. -/
theorem verify_eq (request : VerifierRequest) (probe : Bool) (l : TotalBudgetLedger) :
    verify request probe l =
      match TotalBudgetLedger.chargeVerifier probe l with
      | .ok _ t => .ok request.judge t
      | .error _ t => .ok ⟨request.stepId, .inconclusive, .budgetExhausted⟩ t := by
  simp only [verify, tryCatch_apply, bind_apply]
  cases TotalBudgetLedger.chargeVerifier probe l <;> rfl

end FlowPilot.Planning
