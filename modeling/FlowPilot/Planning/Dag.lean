import FlowPilot.Canonical
import FlowPilot.Lib.DependencyGraph
import FlowPilot.Lib.Worklist
import FlowPilot.Planning.Receipts
import FlowPilot.Store.Status
import Mathlib.Data.String.Basic

/-!
# Plan validation

`PlanningDag` of `schemas.py` and `validate_dag` of `dag.py`, the planning agent's check of a plan
and its order of the steps.
-/

open FlowPilot.Lib

namespace FlowPilot.Planning

/-! ## Schema -/

/-- `^[a-z][a-z0-9_]{1,39}$`. -/
def matchesStepId (s : String) : Bool :=
  matchesPattern isLower (fun b => isLower b || isDigit b || Nat.beq b 95) 1 39 s

structure StepId where
  text : String
  ok : matchesStepId text = true
  deriving DecidableEq

theorem StepId.text_injective : Function.Injective StepId.text := by
  intro a b h
  cases a
  cases b
  cases h
  rfl

/-- Python's order of the texts. -/
instance : LinearOrder StepId := LinearOrder.lift' StepId.text StepId.text_injective

inductive Page where
  | hris | itsm | iam | assets | mail
  deriving DecidableEq, Repr

def Page.value : Page → String
  | .hris => "hris" | .itsm => "itsm" | .iam => "iam" | .assets => "assets" | .mail => "mail"

inductive RequiredContext where
  | humanBrief | suppliedValues | currentObservation | currentActionResult
  deriving DecidableEq, Repr

def RequiredContext.value : RequiredContext → String
  | .humanBrief => "human_brief" | .suppliedValues => "supplied_values"
  | .currentObservation => "current_observation"
  | .currentActionResult => "current_action_result"

inductive AllowedAction where
  | navigate | click | fill | select | read | scroll | wait | finish | fail
  deriving DecidableEq, Repr

def AllowedAction.value : AllowedAction → String
  | .navigate => "navigate" | .click => "click" | .fill => "fill" | .select => "select"
  | .read => "read" | .scroll => "scroll" | .wait => "wait" | .finish => "finish"
  | .fail => "fail"

inductive Condition where
  | dependenciesVerified | budgetAvailable | currentSession | actionSucceeded
  | expectedPageObserved
  deriving DecidableEq, Repr

def Condition.value : Condition → String
  | .dependenciesVerified => "dependencies_verified" | .budgetAvailable => "budget_available"
  | .currentSession => "current_session" | .actionSucceeded => "action_succeeded"
  | .expectedPageObserved => "expected_page_observed"

inductive RiskLevel where
  | low | medium | high
  deriving DecidableEq, Repr

def RiskLevel.value : RiskLevel → String
  | .low => "low" | .medium => "medium" | .high => "high"

inductive Fallback where
  | stop | escalate
  deriving DecidableEq, Repr

def Fallback.value : Fallback → String
  | .stop => "stop" | .escalate => "escalate"

def Operation.value : Operation → String
  | .inspectEmployee => "inspect_employee"
  | .mutation operation => operation.value
  | .finalize => "finalize"

structure PlanStep where
  stepId : StepId
  objective : String
  dependencies : List StepId
  operation : Operation
  expectedPage : Page
  requiredContext : List RequiredContext
  allowedActions : List AllowedAction
  preconditions : List Condition
  postconditions : List Condition
  riskLevel : RiskLevel
  fallback : Fallback
  deriving DecidableEq

structure PlanningDag where
  process : Process
  category : Category
  steps : List PlanStep

inductive PlanValidationReason where
  | duplicateStepId | selfDependency | unknownDependency | multipleRoots | cycle
  | unreachableNode | nodeLimit | edgeLimit | depthLimit | widthLimit | dependencyLimit
  | byteLimit | operationPageMismatch | operationActionMismatch
  deriving DecidableEq, Repr

structure PlanValidationResult where
  valid : Bool
  reasonCodes : List PlanValidationReason
  planId : Option Digest
  nodeCount : Nat
  edgeCount : Nat
  depth : Nat
  width : Nat
  serializedBytes : Nat
  topology : List StepId

/-! ## Contract and limits -/

def maxNodes : Nat := 16
def maxEdges : Nat := 24
def maxDepth : Nat := 8
def maxWidth : Nat := 8
def maxDependencies : Nat := 4
def maxSerializedBytes : Nat := 32768

open Sandbox.W8Operation in
/-- `OPERATION_CONTRACT`. -/
def operationContract : Operation → Page × List AllowedAction
  | .inspectEmployee => (.hris, [.navigate, .read])
  | .mutation createTicket => (.itsm, [.navigate, .fill, .click])
  | .mutation createAccount => (.iam, [.navigate, .fill, .click])
  | .mutation assignAsset => (.assets, [.navigate, .fill, .click])
  | .mutation createMailbox => (.mail, [.navigate, .fill, .click])
  | .mutation transferEmployee => (.hris, [.navigate, .fill, .click])
  | .mutation disableEmployee => (.hris, [.navigate, .fill, .click])
  | .mutation closeTicket => (.itsm, [.navigate, .fill, .click])
  | .mutation revokeAccount => (.iam, [.navigate, .fill, .click])
  | .mutation releaseAsset => (.assets, [.navigate, .fill, .click])
  | .mutation disableMailbox => (.mail, [.navigate, .fill, .click])
  | .finalize => (.hris, [.navigate, .read, .finish])

/-- `frozenset(a) == frozenset(b)`. -/
def sameActions (a b : List AllowedAction) : Bool := (a.all (· ∈ b)) && b.all (· ∈ a)

/-! ## Serialization -/

def hexDigits4 (n : Nat) : List Nat :=
  [3, 2, 1, 0].map fun i => (Nat.digitChar (n / 16 ^ i % 16)).toNat

/-- `\uXXXX`. -/
def unicodeEscape (n : Nat) : List Nat := 92 :: 117 :: hexDigits4 n

/-- A character in `json.dumps(..., ensure_ascii=True)`. -/
def asciiEscape (c : Char) : List Nat :=
  if c = '"' ∨ c = '\\' then [92, c.toNat]
  else if 32 ≤ c.toNat ∧ c.toNat < 127 then [c.toNat]
  else
    match c.toNat with
    | 8 => [92, 98]
    | 9 => [92, 116]
    | 10 => [92, 110]
    | 12 => [92, 102]
    | 13 => [92, 114]
    | n =>
      if n < 65536 then unicodeEscape n
      else unicodeEscape (55296 + (n - 65536) / 1024) ++ unicodeEscape (56320 + (n - 65536) % 1024)

def asciiText (s : String) : List Nat := 34 :: s.toList.flatMap asciiEscape ++ [34]

mutual

/-- `json.dumps(value, sort_keys=True, separators=(",", ":")).encode()`. -/
def asciiBytes : Json → List Nat
  | .null => utf8 "null"
  | .bool b => if b then utf8 "true" else utf8 "false"
  | .num n => utf8 (toString n)
  | .str s => asciiText s
  | .arr items => 91 :: commaJoin (asciiItems items) ++ [93]
  | .obj fields => 123 :: commaJoin ((sortFields (asciiFields fields)).map (·.2)) ++ [125]

def asciiItems : List Json → List (List Nat)
  | [] => []
  | item :: rest => asciiBytes item :: asciiItems rest

def asciiFields : List (String × Json) → List (List Nat × List Nat)
  | [] => []
  | (name, value) :: rest =>
    (utf8 name, asciiText name ++ 58 :: asciiBytes value) :: asciiFields rest

end

/-- `step.model_dump(mode="json")`. -/
def PlanStep.modelDump (step : PlanStep) : Json :=
  .obj [("step_id", .str step.stepId.text),
    ("objective", .str step.objective),
    ("dependencies", .arr (step.dependencies.map fun d => .str d.text)),
    ("operation", .str step.operation.value),
    ("expected_page", .str step.expectedPage.value),
    ("required_context", .arr (step.requiredContext.map fun c => .str c.value)),
    ("allowed_actions", .arr (step.allowedActions.map fun a => .str a.value)),
    ("preconditions", .arr (step.preconditions.map fun c => .str c.value)),
    ("postconditions", .arr (step.postconditions.map fun c => .str c.value)),
    ("risk_level", .str step.riskLevel.value),
    ("retry_policy", .str "no_retry"),
    ("fallback", .str step.fallback.value)]

def PlanningDag.modelDump (dag : PlanningDag) : Json :=
  .obj [("schema_version", .str "w7-planning-dag/1.0"),
    ("process", .str dag.process.value),
    ("category", .str dag.category.value),
    ("steps", .arr (dag.steps.map PlanStep.modelDump))]

/-- `canonical_dag_bytes`. -/
def canonicalDagBytes (dag : PlanningDag) : List Nat := asciiBytes dag.modelDump

/-! ## Validation -/

namespace PlanningDag

variable (dag : PlanningDag)

def ids : List StepId := dag.steps.map PlanStep.stepId

/-- `by_id`: of steps with one id, the last. -/
def byId (id : StepId) : Option PlanStep := dag.steps.reverse.find? fun step => step.stepId = id

def edgeCount : Nat := (dag.steps.map fun step => step.dependencies.length).sum

def roots : List StepId :=
  (dag.steps.filter fun step => step.dependencies = []).map PlanStep.stepId

/-- `dependents` and `adjacency`: for each dependency the steps that name it, as often as they
do. -/
def dependents (id : StepId) : List StepId :=
  dag.steps.flatMap fun step => (step.dependencies.filter (· = id)).map fun _ => step.stepId

/-- The initial `indegree`. -/
def indegree (id : StepId) : Int :=
  match dag.byId id with
  | none => 0
  | some step => step.dependencies.length

end PlanningDag

/-- `sorted`. -/
def sortedIds (ids : List StepId) : List StepId := ids.insertionSort (· ≤ ·)

/-- `indegree[dependent] -= 1`, and the dependent is ready once nothing is left. -/
def relax (s : (StepId → Int) × List StepId) (dependent : StepId) :
    (StepId → Int) × List StepId :=
  (Function.update s.1 dependent (s.1 dependent - 1),
    if s.1 dependent - 1 = 0 then sortedIds (s.2 ++ [dependent]) else s.2)

/-- `while ready:`; `fuel` is the number of steps. -/
def placeReady (dependents : StepId → List StepId) :
    Nat → (StepId → Int) × List StepId → List StepId → List StepId
  | 0, _, topology => topology
  | fuel + 1, (indegree, ready), topology =>
    match ready with
    | [] => topology
    | current :: ready =>
      placeReady dependents fuel
        ((sortedIds (dependents current)).foldl relax (indegree, ready)) (topology ++ [current])

namespace PlanningDag

variable (dag : PlanningDag)

def topology : List StepId :=
  placeReady dag.dependents dag.steps.length
    (dag.indegree, sortedIds (dag.ids.filter fun id => dag.indegree id = 0)) []

/-- `depths`, along the topology. -/
def depths (topology : List StepId) : StepId → Nat :=
  topology.foldl
    (fun depths id =>
      let dependencies := ((dag.byId id).map PlanStep.dependencies).getD []
      Function.update depths id
        (if dependencies = [] then 1 else 1 + (dependencies.map depths).foldl max 0))
    fun _ => 0

def depth : Nat := (dag.topology.map (dag.depths dag.topology)).foldl max 0

/-- The largest count of a depth. -/
def width : Nat :=
  let values := dag.topology.map (dag.depths dag.topology)
  (values.map fun value => values.count value).foldl max 0

/-- `seen`; each step is put into the queue once for each dependency, and the root once more. -/
def seen : List StepId :=
  explore (fun _ => false) dag.dependents (dag.edgeCount + 1) dag.roots []

end PlanningDag

def stepReasons (dag : PlanningDag) (step : PlanStep) : List PlanValidationReason :=
  (if step.dependencies.length > maxDependencies then [.dependencyLimit] else []) ++
    (if step.stepId ∈ step.dependencies then [.selfDependency] else []) ++
    (if step.dependencies.any fun d => d ∉ dag.ids then [.unknownDependency] else []) ++
    (if step.expectedPage ≠ (operationContract step.operation).1 then [.operationPageMismatch]
      else []) ++
    (if sameActions step.allowedActions (operationContract step.operation).2 then []
      else [.operationActionMismatch])

/-- The reasons that are found before the steps are ordered. -/
def localReasons (dag : PlanningDag) : List PlanValidationReason :=
  (if dag.ids.Nodup then [] else [.duplicateStepId]) ++
    (if dag.steps.length > maxNodes then [.nodeLimit] else []) ++
    (if dag.edgeCount > maxEdges then [.edgeLimit] else []) ++
    (if (canonicalDagBytes dag).length > maxSerializedBytes then [.byteLimit] else []) ++
    dag.steps.flatMap (stepReasons dag) ++
    (if dag.roots.length ≠ 1 then [.multipleRoots] else [])

/-- Whether the steps are ordered at all. -/
def orderable (dag : PlanningDag) : Bool :=
  decide (.duplicateStepId ∉ localReasons dag ∧ .unknownDependency ∉ localReasons dag)

def completeOrder (dag : PlanningDag) : Bool :=
  orderable dag && decide (dag.topology.length = dag.steps.length)

def orderReasons (dag : PlanningDag) : List PlanValidationReason :=
  if orderable dag then
    if completeOrder dag then
      (if dag.depth > maxDepth then [.depthLimit] else []) ++
        (if dag.width > maxWidth then [.widthLimit] else [])
    else [.cycle]
  else []

def reachReasons (dag : PlanningDag) : List PlanValidationReason :=
  if dag.roots.length = 1 ∧ .unknownDependency ∉ localReasons dag then
    if dag.seen.length ≠ dag.steps.length then [.unreachableNode] else []
  else []

/-- `reason_codes`, each once. -/
def reasonCodes (dag : PlanningDag) : List PlanValidationReason :=
  (localReasons dag ++ orderReasons dag ++ reachReasons dag).eraseDups

/-- `validate_dag`; the result has a bound on its node count, `none` is the `ValidationError`. -/
def validateDag [Sha256] (dag : PlanningDag) : Option PlanValidationResult :=
  if 32 < dag.steps.length then none
  else
    some
      { valid := decide (reasonCodes dag = [])
        reasonCodes := reasonCodes dag
        planId :=
          if reasonCodes dag = [] then some (Sha256.sha256 (canonicalDagBytes dag)) else none
        nodeCount := dag.steps.length
        edgeCount := dag.edgeCount
        depth := if completeOrder dag then dag.depth else 0
        width := if completeOrder dag then dag.width else 0
        serializedBytes := (canonicalDagBytes dag).length
        topology := if reasonCodes dag = [] then dag.topology else [] }

end FlowPilot.Planning
