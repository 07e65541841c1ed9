import FlowPilot.Lib.Base64
import FlowPilot.Recovery.Values
import FlowPilot.Store.Status

/-!
# Schemas of the recovery worker

`schemas.py`: the texts that the models admit carry the proof of their pattern, so that no value
of a model breaks its own schema.
-/

open FlowPilot.Lib

namespace FlowPilot.Recovery

/-! ## Constrained texts -/

/-- `^[A-Za-z][A-Za-z0-9_-]{7,79}$`. -/
def matchesOpaqueId (s : String) : Bool :=
  matchesPattern (fun b => isLower b || isUpper b) idChar 7 79 s

structure OpaqueId where
  text : String
  valid : matchesOpaqueId text = true
  deriving DecidableEq

def OpaqueId.ofText? (s : String) : Option OpaqueId :=
  if h : matchesOpaqueId s = true then some ⟨s, h⟩ else none

/-- `^(?:w3-joiner-00[1-5]|w7-jml-(?:joiner|mover|leaver)-[0-9]{3}-v[123])$`. -/
def matchesTaskId (s : String) : Bool :=
  (["1", "2", "3", "4", "5"].any fun digit => s = "w3-joiner-00" ++ digit) ||
    ["joiner", "mover", "leaver"].any fun process =>
      let lead := utf8 ("w7-jml-" ++ process ++ "-")
      startsWith (utf8 s) lead &&
        match (utf8 s).drop lead.length with
        | [a, b, c, 45, 118, v] =>
          isDigit a && isDigit b && isDigit c && Nat.ble 49 v && Nat.ble v 51
        | _ => false

structure TaskId where
  text : String
  valid : matchesTaskId text = true
  deriving DecidableEq

def TaskId.ofText? (s : String) : Option TaskId :=
  if h : matchesTaskId s = true then some ⟨s, h⟩ else none

/-- `^[A-Za-z0-9+/]+={0,2}$` with 16 to 16 384 characters. -/
def matchesBase64Text (text : List Char) : Bool :=
  Base64.matchesPattern text && decide (16 ≤ text.length ∧ text.length ≤ 16384)

structure Base64Text where
  text : List Char
  valid : matchesBase64Text text = true
  deriving DecidableEq

def Base64Text.ofText? (text : List Char) : Option Base64Text :=
  if h : matchesBase64Text text = true then some ⟨text, h⟩ else none

theorem OpaqueId.ext_text {a b : OpaqueId} (h : a.text = b.text) : a = b := by
  cases a
  cases b
  cases h
  rfl

theorem TaskId.ext_text {a b : TaskId} (h : a.text = b.text) : a = b := by
  cases a
  cases b
  cases h
  rfl

theorem Base64Text.ext_text {a b : Base64Text} (h : a.text = b.text) : a = b := by
  cases a
  cases b
  cases h
  rfl

/-! ## The start of a workflow -/

structure OpaqueEnvelope where
  nonce : Base64Text
  ciphertext : Base64Text
  associatedDataHash : Digest
  deriving DecidableEq

inductive FaultScenario where
  | none | activityPreDispatchOnce | postCommitPreCheckpointOnce | browserSessionLostOnce
  | browserWorkerRestartOnce | recoveryWorkerRestartOnce | transientTimeoutOnce
  | permanentFailure | checkpointVersionMismatch | checkpointHashMismatch
  | idempotencyMismatch | replanEligibleOnce | replanDisallowed
  deriving DecidableEq, Repr

structure WorkflowBudget where
  maxActivityAttempts : Nat := 2
  maxSessionRecoveries : Nat := 2
  maxReplans : Nat := 1
  maxRevisions : Nat := 2
  maxCheckpoints : Nat := 18
  maxReceipts : Nat := 24
  maxFaults : Nat := 2
  maxDurationSeconds : Nat := 300
  activityAttempts_range : 1 ≤ maxActivityAttempts ∧ maxActivityAttempts ≤ 2 := by decide
  sessionRecoveries_range : maxSessionRecoveries ≤ 2 := by decide
  replans_range : maxReplans ≤ 1 := by decide
  revisions_range : 1 ≤ maxRevisions ∧ maxRevisions ≤ 2 := by decide
  checkpoints_range : 1 ≤ maxCheckpoints ∧ maxCheckpoints ≤ 18 := by decide
  receipts_range : 1 ≤ maxReceipts ∧ maxReceipts ≤ 24 := by decide
  faults_range : maxFaults ≤ 2 := by decide
  durationSeconds_range : 1 ≤ maxDurationSeconds ∧ maxDurationSeconds ≤ 300 := by decide
  deriving DecidableEq

structure WorkflowStart where
  workflowId : OpaqueId
  runId : OpaqueId
  taskId : TaskId
  envelope : OpaqueEnvelope
  faultScenario : FaultScenario := .none
  budget : WorkflowBudget := {}
  deriving DecidableEq

/-! ## The plain input -/

structure PlainRunInput where
  workflowId : OpaqueId
  runId : OpaqueId
  taskId : TaskId
  process : Process
  category : Category
  humanBrief : String
  suppliedValues : List (String × Value)
  category_matches : category.value = "standard_" ++ process.value
  brief_length : 1 ≤ textLength humanBrief ∧ textLength humanBrief ≤ 4000
  distinct : (Value.obj suppliedValues).Distinct

namespace PlainRunInput

def schemaVersion : String := "w8-plain-run-input/1.0"

/-- `model_dump(mode="json")`. -/
def dump (plain : PlainRunInput) : Value :=
  .obj [("schema_version", .str schemaVersion),
    ("workflow_id", .str plain.workflowId.text),
    ("run_id", .str plain.runId.text),
    ("task_id", .str plain.taskId.text),
    ("process", .str plain.process.value),
    ("category", .str plain.category.value),
    ("human_brief", .str plain.humanBrief),
    ("supplied_values", .obj plain.suppliedValues)]

/-- The inputs are equal; a dictionary has no order. -/
structure Equal (a b : PlainRunInput) : Prop where
  workflowId : a.workflowId = b.workflowId
  runId : a.runId = b.runId
  taskId : a.taskId = b.taskId
  process : a.process = b.process
  category : a.category = b.category
  humanBrief : a.humanBrief = b.humanBrief
  suppliedValues : (Value.obj a.suppliedValues).Equal (.obj b.suppliedValues)

end PlainRunInput

/-- `data.get(name)`. -/
def fieldOf (fields : List (String × Value)) (name : String) : Option Value :=
  (fields.find? fun f => f.1 = name).map (·.2)

def textOf (fields : List (String × Value)) (name : String) : Option String :=
  match fieldOf fields name with
  | some (.str s) => some s
  | _ => none

def dictOf (fields : List (String × Value)) (name : String) : Option (List (String × Value)) :=
  match fieldOf fields name with
  | some (.obj values) => some values
  | _ => none

def Process.ofValue? (s : String) : Option Process :=
  [Process.joiner, .mover, .leaver].find? fun p => p.value = s

def Category.ofValue? (s : String) : Option Category :=
  [Category.joiner, .mover, .leaver].find? fun c => c.value = s

def plainRunInputFields : List String :=
  ["schema_version", "workflow_id", "run_id", "task_id", "process", "category", "human_brief",
    "supplied_values"]

/-- `PlainRunInput.model_validate`, strict and closed; only the version has a default. -/
def PlainRunInput.validate : Value → Option PlainRunInput
  | .obj fields =>
    if fields.any fun f => f.1 ∉ plainRunInputFields then none
    else if (fieldOf fields "schema_version").isSome ∧
        textOf fields "schema_version" ≠ some schemaVersion then none
    else do
      let workflowId ← (textOf fields "workflow_id").bind OpaqueId.ofText?
      let runId ← (textOf fields "run_id").bind OpaqueId.ofText?
      let taskId ← (textOf fields "task_id").bind TaskId.ofText?
      let process ← (textOf fields "process").bind Process.ofValue?
      let category ← (textOf fields "category").bind Category.ofValue?
      let humanBrief ← textOf fields "human_brief"
      let suppliedValues ← dictOf fields "supplied_values"
      -- a dictionary holds every name once
      if h : category.value = "standard_" ++ process.value ∧
          (1 ≤ textLength humanBrief ∧ textLength humanBrief ≤ 4000) ∧
          (Value.obj suppliedValues).Distinct then
        some ⟨workflowId, runId, taskId, process, category, humanBrief, suppliedValues,
          h.1, h.2.1, h.2.2⟩
      else none
  | _ => none

end FlowPilot.Recovery
