import FlowPilot.Control.Production
import FlowPilot.Recovery.Schemas
import FlowPilot.Worker.Binding

/-!
# The opaque envelope

`crypto.py` of the recovery worker, which seals and opens the plain input of a run, and
`build_workflow_start` of the workflow worker, which seals it for one of the trusted tasks.
AES-GCM is a parameter: what it seals it opens, and the tag takes sixteen bytes.
-/

open FlowPilot.Lib

namespace FlowPilot.Recovery

class AesGcm where
  encrypt (key nonce data associatedData : List UInt8) : List UInt8
  decrypt (key nonce data associatedData : List UInt8) : Option (List UInt8)
  decrypt_encrypt (key nonce data associatedData : List UInt8) :
    key.length = 32 → nonce.length = 12 →
      decrypt key nonce (encrypt key nonce data associatedData) associatedData = some data
  length_encrypt (key nonce data associatedData : List UInt8) :
    key.length = 32 → nonce.length = 12 →
      (encrypt key nonce data associatedData).length = data.length + 16

/-- What was sealed opens under its own nonce and associated data only. -/
def AesGcm.Binds [AesGcm] (key nonce data associatedData : List UInt8) : Prop :=
  ∀ nonce' associatedData' opened,
    decrypt key nonce' (encrypt key nonce data associatedData) associatedData' = some opened →
      nonce' = nonce ∧ associatedData' = associatedData

inductive Failure where
  | valueError (message : String)
  | keyError
  | invalidBase64
  | invalidTag
  | invalidJson
  | validationError
  deriving DecidableEq, Repr

/-! ## Bytes and texts -/

def toBytes (text : List Nat) : List UInt8 := text.map UInt8.ofNat

def ofBytes (bytes : List UInt8) : List Nat := bytes.map UInt8.toNat

/-- `_b64encode` and `_b64`. -/
def b64encode (bytes : List UInt8) : List Char := Base64.encode bytes

/-- `_b64decode`. -/
def b64decode (text : Base64Text) : Except Failure (List UInt8) :=
  match Base64.decode text.text with
  | none => .error .invalidBase64
  | some bytes => .ok bytes

/-- What `associated_data` and `build_workflow_start` bind a text to. -/
def associatedData (workflowId runId taskId : String) : List Nat :=
  canonicalJsonBytes (.obj
    [("schema_version", .str "w8-opaque-envelope/1.0"),
      ("key_id", .str "w8-local-runtime-key/1"),
      ("workflow_id", .str workflowId),
      ("run_id", .str runId),
      ("task_id", .str taskId)])

section

variable [Sha256] [AesGcm]

/-- `OpaqueEnvelope(...)`. -/
def OpaqueEnvelope.create (nonce ciphertext : List UInt8) (hash : Digest) :
    Except Failure OpaqueEnvelope :=
  match Base64Text.ofText? (b64encode nonce), Base64Text.ofText? (b64encode ciphertext) with
  | some nonce, some ciphertext => .ok ⟨nonce, ciphertext, hash⟩
  | _, _ => .error .validationError

def encryptPlainInput (plain : PlainRunInput) (key nonce : List UInt8) :
    Except Failure OpaqueEnvelope :=
  if key.length ≠ 32 ∨ nonce.length ≠ 12 then
    .error (.valueError "AES-GCM requires a 32-byte key and 12-byte nonce")
  else
    let aad := associatedData plain.workflowId.text plain.runId.text plain.taskId.text
    let ciphertext :=
      AesGcm.encrypt key nonce (toBytes (canonicalJsonBytes plain.dump)) (toBytes aad)
    OpaqueEnvelope.create nonce ciphertext (Sha256.sha256 aad)

def decryptPlainInput (start : WorkflowStart) (key : List UInt8) :
    Except Failure PlainRunInput :=
  if key.length ≠ 32 then .error (.valueError "invalid AES-GCM key length")
  else
    let aad := associatedData start.workflowId.text start.runId.text start.taskId.text
    if Sha256.sha256 aad ≠ start.envelope.associatedDataHash then
      .error (.valueError "opaque envelope associated-data hash mismatch")
    else do
      let nonce ← b64decode start.envelope.nonce
      let ciphertext ← b64decode start.envelope.ciphertext
      match AesGcm.decrypt key nonce ciphertext (toBytes aad) with
      | none => .error .invalidTag
      | some plaintext =>
        match loads (ofBytes plaintext) with
        | none => .error .invalidJson
        | some value =>
          match PlainRunInput.validate value with
          | none => .error .validationError
          | some plain =>
            if plain.workflowId ≠ start.workflowId ∨ plain.runId ≠ start.runId ∨
                plain.taskId ≠ start.taskId then
              .error (.valueError "opaque envelope identity mismatch")
            else .ok plain

end

/-! ## The trusted tasks -/

def joinerValues (employeeId : Int) (title username assetTag laptopModel mailbox : String) :
    List (String × Value) :=
  [("process", .str "joiner"), ("employee_id", .int employeeId), ("ticket_title", .str title),
    ("username", .str username), ("asset_tag", .str assetTag),
    ("laptop_model", .str laptopModel), ("mailbox", .str mailbox)]

def moverValues (employeeId : Int) (department jobTitle location : String) :
    List (String × Value) :=
  [("process", .str "mover"), ("employee_id", .int employeeId),
    ("new_department", .str department), ("new_job_title", .str jobTitle),
    ("new_location", .str location)]

def leaverValues (employeeId : Int) : List (String × Value) :=
  [("process", .str "leaver"), ("employee_id", .int employeeId)]

/-- `_TASKS`. -/
def trustedTask : FlowPilot.TaskId → Process × Category × List (String × Value)
  | .joiner001v1 => (.joiner, .joiner, joinerValues 41011 "W7 Joiner 001 Variant 1"
      "w7.joiner001v1" "SYN-W7-JOINER-001-V1" "Synthetic Laptop 3"
      "w7.joiner001v1@flowpilot.invalid")
  | .joiner001v2 => (.joiner, .joiner, joinerValues 41012 "W7 Joiner 001 Variant 2"
      "w7.joiner001v2" "SYN-W7-JOINER-001-V2" "Synthetic Laptop 4"
      "w7.joiner001v2@flowpilot.invalid")
  | .joiner002v1 => (.joiner, .joiner, joinerValues 41021 "W7 Joiner 002 Variant 1"
      "w7.joiner002v1" "SYN-W7-JOINER-002-V1" "Synthetic Laptop 4"
      "w7.joiner002v1@flowpilot.invalid")
  | .joiner002v2 => (.joiner, .joiner, joinerValues 41022 "W7 Joiner 002 Variant 2"
      "w7.joiner002v2" "SYN-W7-JOINER-002-V2" "Synthetic Laptop 1"
      "w7.joiner002v2@flowpilot.invalid")
  | .mover001v1 => (.mover, .mover, moverValues 41131 "Synthetic Transfer Department 2"
      "Synthetic Transfer Lead 2" "Synthetic Transfer Location 1")
  | .mover001v2 => (.mover, .mover, moverValues 41132 "Synthetic Transfer Department 2"
      "Synthetic Transfer Lead 2" "Synthetic Transfer Location 2")
  | .leaver001v1 => (.leaver, .leaver, leaverValues 41211)
  | .leaver001v2 => (.leaver, .leaver, leaverValues 41212)

def createTicketParameters (employeeId : Int) (ticketCode : String) :
    String × List (String × Json) :=
  ("create_ticket", [("schema_version", .str "w11-create-ticket-parameters/1.0"),
    ("employee_id", .num employeeId), ("ticket_code", .str ticketCode)])

def transferEmployeeParameters (employeeId : Int) (destinationCode : String) :
    String × List (String × Json) :=
  ("transfer_employee", [("schema_version", .str "w11-transfer-employee-parameters/1.0"),
    ("employee_id", .num employeeId), ("destination_code", .str destinationCode)])

def disableEmployeeParameters (employeeId : Int) : String × List (String × Json) :=
  ("disable_employee", [("schema_version", .str "w11-employee-mutation-parameters/1.0"),
    ("employee_id", .num employeeId)])

/-- `_EFFECT_BINDINGS`. -/
def effectBinding : FlowPilot.TaskId → String × List (String × Json)
  | .joiner001v1 => createTicketParameters 41011 "w7.joiner001v1"
  | .joiner001v2 => createTicketParameters 41012 "w7.joiner001v2"
  | .joiner002v1 => createTicketParameters 41021 "w7.joiner002v1"
  | .joiner002v2 => createTicketParameters 41022 "w7.joiner002v2"
  | .mover001v1 => transferEmployeeParameters 41131 "w7.mover001v1"
  | .mover001v2 => transferEmployeeParameters 41132 "w7.mover001v2"
  | .leaver001v1 => disableEmployeeParameters 41211
  | .leaver001v2 => disableEmployeeParameters 41212

def workflowSchemaTexts (item : Worker.WorkItem) : Option (OpaqueId × OpaqueId × TaskId) := do
  let workflowId ← OpaqueId.ofText? item.workflowId
  let runId ← OpaqueId.ofText? item.runId.text
  let taskId ← TaskId.ofText? item.taskId.value
  some (workflowId, runId, taskId)

/-- The `OpaqueEnvelope` of the workflow worker admits a shorter nonce only. -/
def maxNonceText : Nat := 64

/-- `build_workflow_start`, given the nonce it draws. -/
def buildWorkflowStart [Sha256] [AesGcm] (item : Worker.WorkItem) (key nonce : List UInt8) :
    Except Failure WorkflowStart :=
  if key.length ≠ 32 then .error (.valueError "W8 envelope key must be 32 bytes")
  else
    let (process, category, suppliedValues) := trustedTask item.taskId
    if process ≠ item.process ∨ category ≠ item.category then
      .error (.valueError "trusted task reference binding changed")
    else
      let (actionType, parameters) := effectBinding item.taskId
      if item.actionType ≠ actionType ∨
          item.parameterHash ≠ stableHash (Control.actionBinding actionType parameters) then
        .error (.valueError "production action does not authorize trusted task effect")
      else if Control.trustedTaskHash item.taskId process category ≠ item.payloadHash then
        .error (.valueError "trusted task reference hash changed")
      else do
        let plain : Value := .obj
          [("schema_version", .str "w8-plain-run-input/1.0"),
            ("workflow_id", .str item.workflowId),
            ("run_id", .str item.runId.text),
            ("task_id", .str item.taskId.value),
            ("process", .str process.value),
            ("category", .str category.value),
            ("human_brief", .str "Synthetic bounded production task"),
            ("supplied_values", .obj suppliedValues)]
        let aad := canonicalJsonBytes (.obj
          [("schema_version", .str "w8-opaque-envelope/1.0"),
            ("key_id", .str "w8-local-runtime-key/1"),
            ("workflow_id", .str item.workflowId),
            ("run_id", .str item.runId.text),
            ("task_id", .str item.taskId.value)])
        let ciphertext :=
          AesGcm.encrypt key nonce (toBytes (canonicalJsonBytes plain)) (toBytes aad)
        -- the hash of the decoded text is that of the bytes
        let envelope ← OpaqueEnvelope.create nonce ciphertext (Sha256.sha256 aad)
        if maxNonceText < envelope.nonce.text.length then .error .validationError
        else
          match workflowSchemaTexts item with
          | none => .error .validationError
          | some (workflowId, runId, taskId) =>
            .ok { workflowId := workflowId, runId := runId, taskId := taskId
                  envelope := envelope }

end FlowPilot.Recovery
